import KernelForge.Proofs.Json.RoundTrip
import Mathlib.Data.List.Chain

/-!
Texts without spaces.

A word or a number goes on until something else begins, and all other tokens are over with their last
character (`Token.Closed`). The tokens of a value never have two of the first kind side by side
(`apart_tokens`), so their characters are scanned to them with nothing in between (`scan_apart`), and a
compact text is read as what it was written for (`parse?_compact`).
-/
namespace KernelForge.Json

namespace Token

/-- A token with a character of its own at either end. -/
def Closed : Token → Prop
  | .null | .bool _ | .number _ => False
  | _ => True

theorem scan_closed (ts : List Token) {t : Token} (ht : t.Closed) (rest : List Char) :
    scanFrom ts .between (t.chars ++ rest) = scanFrom (t :: ts) .between rest := by
  cases t with
  | null => exact ht.elim
  | bool value => exact ht.elim
  | number lexeme => exact ht.elim
  | text content => exact scan_quote ts content rest
  | openBrace => rfl
  | closeBrace => rfl
  | openBracket => rfl
  | closeBracket => rfl
  | colon => rfl
  | comma => rfl

theorem breaks_closed {t : Token} (ht : t.Closed) (rest : List Char) : Breaks (t.chars ++ rest) := by
  cases t with
  | null => exact ht.elim
  | bool value => exact ht.elim
  | number lexeme => exact ht.elim
  | text content => cases content <;> exact ⟨by decide, by decide⟩
  | openBrace => exact ⟨by decide, by decide⟩
  | closeBrace => exact ⟨by decide, by decide⟩
  | openBracket => exact ⟨by decide, by decide⟩
  | closeBracket => exact ⟨by decide, by decide⟩
  | colon => exact ⟨by decide, by decide⟩
  | comma => exact ⟨by decide, by decide⟩

end Token

/-! ### Tokens that stand apart -/

/-- Of two tokens side by side, one is closed. -/
def Apart (ts : List Token) : Prop := ts.IsChain fun t u => t.Closed ∨ u.Closed

theorem apart_cons {t : Token} {ts : List Token} (ht : t.Closed) (h : Apart ts) : Apart (t :: ts) := by
  cases ts with
  | nil => exact List.IsChain.singleton t
  | cons u ts => exact List.IsChain.cons_cons (.inl ht) h

theorem apart_append {a b : List Token} (ha : Apart a) (hb : Apart b) (hfirst : ∀ t ∈ b.head?, t.Closed) :
    Apart (a ++ b) :=
  List.isChain_append.mpr ⟨ha, hb, fun _ _ t ht => .inr (hfirst t ht)⟩

theorem closed_laterItems (items : List Json) : ∀ t ∈ (laterItems items).head?, t.Closed := by
  cases items with
  | nil => simp [laterItems]
  | cons v items => simp [laterItems, Token.Closed]

theorem closed_laterMembers (members : List (Option String × Json)) :
    ∀ t ∈ (laterMembers members).head?, t.Closed := by
  cases members with
  | nil => simp [laterMembers]
  | cons m members => simp [laterMembers, Token.Closed]

mutual

theorem apart_tokens (v : Json) : Apart v.tokens := by
  match v with
  | .null => exact List.IsChain.singleton _
  | .bool b => exact List.IsChain.singleton _
  | .number lexeme => exact List.IsChain.singleton _
  | .text content => exact List.IsChain.singleton _
  | .array [] => exact List.IsChain.cons_cons (.inl trivial) (List.IsChain.singleton _)
  | .array (v :: items) =>
    rw [tokens, firstItem]
    refine apart_cons trivial (apart_append ?_ (List.IsChain.singleton _) (by simp [Token.Closed]))
    exact apart_append (apart_tokens v) (apart_laterItems items) (closed_laterItems items)
  | .object [] => exact List.IsChain.cons_cons (.inl trivial) (List.IsChain.singleton _)
  | .object (m :: members) =>
    rw [tokens, firstMember]
    refine apart_cons trivial (apart_append ?_ (List.IsChain.singleton _) (by simp [Token.Closed]))
    exact apart_append (apart_memberTokens m) (apart_laterMembers members) (closed_laterMembers members)

theorem apart_laterItems (items : List Json) : Apart (laterItems items) := by
  match items with
  | [] => exact List.IsChain.nil
  | v :: items =>
    rw [laterItems]
    exact apart_cons trivial (apart_append (apart_tokens v) (apart_laterItems items) (closed_laterItems items))

theorem apart_laterMembers (members : List (Option String × Json)) : Apart (laterMembers members) := by
  match members with
  | [] => exact List.IsChain.nil
  | m :: members =>
    rw [laterMembers]
    exact apart_cons trivial
      (apart_append (apart_memberTokens m) (apart_laterMembers members) (closed_laterMembers members))

theorem apart_memberTokens (m : Option String × Json) : Apart (memberTokens m) := by
  match m with
  | (name, v) => exact apart_cons trivial (apart_cons trivial (apart_tokens v))

end

/-! ### Compact texts -/

/-- The characters of tokens that stand apart are scanned to these tokens. -/
theorem scan_apart {us : List Token} (hs : Spelled us) (ha : Apart us) (ts : List Token) (rest : List Char)
    (hr : Token.Breaks rest) :
    Token.scanFrom ts .between (us.flatMap Token.chars ++ rest) = Token.scanFrom (us.reverse ++ ts)
      .between rest := by
  induction us generalizing ts with
  | nil => rfl
  | cons u us ih =>
    obtain ⟨hu, hrest⟩ := spelled_cons.mp hs
    have hnext : Token.scanFrom ts .between (u.chars ++ (us.flatMap Token.chars ++ rest)) =
        Token.scanFrom (u :: ts) .between (us.flatMap Token.chars ++ rest) := by
      by_cases hclosed : u.Closed
      · exact Token.scan_closed ts hclosed _
      · -- The token goes on until the next one begins, which is closed.
        refine Token.scan_chars ts hu ?_
        cases us with
        | nil => exact hr
        | cons w us =>
          have hw := (List.isChain_cons_cons.mp ha).1.resolve_left hclosed
          rw [List.flatMap_cons, List.append_assoc]
          exact Token.breaks_closed hw _
    rw [List.flatMap_cons, List.append_assoc, hnext, ih hrest ha.tail, List.reverse_cons, List.append_assoc]
    rfl

/-- **What is written without spaces for a value is read as that value.** -/
theorem parse?_compact {v : Json} (hv : Spelled v.tokens) : parse? v.compact = some v := by
  have hscan := scan_apart hv (apart_tokens v) [] [] trivial
  rw [List.append_nil, List.append_nil] at hscan
  rw [parse?, compact, String.toList_ofList, Token.scan, hscan]
  simpa [Token.scanFrom, Token.finish] using ofTokens?_tokens v

end KernelForge.Json
