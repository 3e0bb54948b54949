import KernelForge.Json
import KernelForge.Proofs.Json.Scan

/-!
Reading what was written.

The indented text of a value is scanned to the tokens of the value (`scan_indented`), the reader puts those
together to the value again (`run_tokens`), and so a text that was written is read as what it was written for
(`parse?_pretty`).
-/
namespace KernelForge.Json

/-! ### Indented texts -/

theorem scan_breakLine (ts : List Token) (depth : Nat) (rest : List Char) :
    Token.scanFrom ts .between (breakLine depth ++ rest) = Token.scanFrom ts .between rest := by
  rw [breakLine, List.cons_append]
  exact Token.scan_spaces ts (2 * depth) rest

theorem breaks_breakLine (depth : Nat) (rest : List Char) : Token.Breaks (breakLine depth ++ rest) :=
  ⟨by decide, by decide⟩

/-- What comes after an item breaks off a number in it. -/
theorem breaks_indentedItems (depth : Nat) (items : List Json) {rest : List Char} (hr : Token.Breaks rest) :
    Token.Breaks (indentedItems depth items ++ rest) := by
  cases items with
  | nil => exact hr
  | cons v items => exact ⟨by decide, by decide⟩

theorem breaks_indentedMembers (depth : Nat) (members : List (Option String × Json)) {rest : List Char}
    (hr : Token.Breaks rest) : Token.Breaks (indentedMembers depth members ++ rest) := by
  cases members with
  | nil => exact hr
  | cons m members => exact ⟨by decide, by decide⟩

/-- The tokens of a value are all written as they are read. -/
def Spelled (ts : List Token) : Prop := ∀ t ∈ ts, t.Spelled

theorem spelled_append {a b : List Token} : Spelled (a ++ b) ↔ Spelled a ∧ Spelled b := by
  simp only [Spelled, List.mem_append, or_imp, forall_and]

theorem spelled_cons {t : Token} {ts : List Token} : Spelled (t :: ts) ↔ t.Spelled ∧ Spelled ts := by
  simp only [Spelled, List.mem_cons, or_imp, forall_and, forall_eq]

mutual

/-- The indented text of a value is scanned to its tokens. -/
theorem scan_indented (depth : Nat) (v : Json) (hv : Spelled v.tokens) (ts : List Token)
    (rest : List Char) (hr : Token.Breaks rest) :
    Token.scanFrom ts .between (indented depth v ++ rest) =
      Token.scanFrom (v.tokens.reverse ++ ts) .between rest := by
  match v with
  | .null => exact Token.scan_chars ts (t := .null) trivial hr
  | .bool b => exact Token.scan_chars ts (t := .bool b) trivial hr
  | .number lexeme =>
    exact Token.scan_chars ts (t := .number lexeme) (hv _ (by simp [tokens])) hr
  | .text content => exact Token.scan_chars ts (t := .text content) trivial hr
  | .array [] => rfl
  | .array (v :: items) =>
    have hparts : Spelled v.tokens ∧ Spelled (laterItems items) := by
      simp only [tokens, firstItem, spelled_cons, spelled_append] at hv
      exact hv.2.1
    have hclose : Token.Breaks (breakLine depth ++ ']' :: rest) := breaks_breakLine depth _
    calc Token.scanFrom ts .between (indented depth (.array (v :: items)) ++ rest)
        = Token.scanFrom (.openBracket :: ts) .between (breakLine (depth + 1) ++
            (indented (depth + 1) v ++ (indentedItems depth items ++ (breakLine depth ++ ']' :: rest)))) := by
          simp only [indented, List.cons_append, List.append_assoc, List.nil_append]
          rfl
      _ = Token.scanFrom (v.tokens.reverse ++ .openBracket :: ts) .between
            (indentedItems depth items ++ (breakLine depth ++ ']' :: rest)) := by
          rw [scan_breakLine, scan_indented (depth + 1) v hparts.1 _ _ (breaks_indentedItems depth items hclose)]
      _ = Token.scanFrom ((laterItems items).reverse ++ (v.tokens.reverse ++ .openBracket :: ts)) .between
            (']' :: rest) := by
          rw [scan_items depth items hparts.2 _ _ hclose, scan_breakLine]
      _ = Token.scanFrom ((tokens (.array (v :: items))).reverse ++ ts) .between rest := by
          simp [tokens, firstItem, Token.scanFrom, Token.advance, Token.start, Token.isSpace]
  | .object [] => rfl
  | .object (m :: members) =>
    have hparts : Spelled (memberTokens m) ∧ Spelled (laterMembers members) := by
      simp only [tokens, firstMember, spelled_cons, spelled_append] at hv
      exact hv.2.1
    have hclose : Token.Breaks (breakLine depth ++ '\x7d' :: rest) := breaks_breakLine depth _
    calc Token.scanFrom ts .between (indented depth (.object (m :: members)) ++ rest)
        = Token.scanFrom (.openBrace :: ts) .between (breakLine (depth + 1) ++
            (indentedMember (depth + 1) m ++
              (indentedMembers depth members ++ (breakLine depth ++ '\x7d' :: rest)))) := by
          simp only [indented, List.cons_append, List.append_assoc, List.nil_append]
          rfl
      _ = Token.scanFrom ((memberTokens m).reverse ++ .openBrace :: ts) .between
            (indentedMembers depth members ++ (breakLine depth ++ '\x7d' :: rest)) := by
          rw [scan_breakLine,
            scan_member (depth + 1) m hparts.1 _ _ (breaks_indentedMembers depth members hclose)]
      _ = Token.scanFrom ((laterMembers members).reverse ++ ((memberTokens m).reverse ++ .openBrace :: ts))
            .between ('\x7d' :: rest) := by
          rw [scan_members depth members hparts.2 _ _ hclose, scan_breakLine]
      _ = Token.scanFrom ((tokens (.object (m :: members))).reverse ++ ts) .between rest := by
          simp [tokens, firstMember, Token.scanFrom, Token.advance, Token.start, Token.isSpace]

theorem scan_items (depth : Nat) (items : List Json) (hv : Spelled (laterItems items)) (ts : List Token)
    (rest : List Char) (hr : Token.Breaks rest) :
    Token.scanFrom ts .between (indentedItems depth items ++ rest) =
      Token.scanFrom ((laterItems items).reverse ++ ts) .between rest := by
  match items with
  | [] => rfl
  | v :: items =>
    have hparts : Spelled v.tokens ∧ Spelled (laterItems items) := by
      simp only [laterItems, spelled_cons, spelled_append] at hv
      exact hv.2
    calc Token.scanFrom ts .between (indentedItems depth (v :: items) ++ rest)
        = Token.scanFrom (.comma :: ts) .between (breakLine (depth + 1) ++
            (indented (depth + 1) v ++ (indentedItems depth items ++ rest))) := by
          simp only [indentedItems, List.cons_append, List.append_assoc]
          rfl
      _ = Token.scanFrom ((laterItems items).reverse ++ (v.tokens.reverse ++ .comma :: ts)) .between rest := by
          rw [scan_breakLine, scan_indented (depth + 1) v hparts.1 _ _ (breaks_indentedItems depth items hr),
            scan_items depth items hparts.2 _ _ hr]
      _ = Token.scanFrom ((laterItems (v :: items)).reverse ++ ts) .between rest := by
          simp [laterItems]

theorem scan_members (depth : Nat) (members : List (Option String × Json))
    (hv : Spelled (laterMembers members)) (ts : List Token) (rest : List Char) (hr : Token.Breaks rest) :
    Token.scanFrom ts .between (indentedMembers depth members ++ rest) =
      Token.scanFrom ((laterMembers members).reverse ++ ts) .between rest := by
  match members with
  | [] => rfl
  | m :: members =>
    have hparts : Spelled (memberTokens m) ∧ Spelled (laterMembers members) := by
      simp only [laterMembers, spelled_cons, spelled_append] at hv
      exact hv.2
    calc Token.scanFrom ts .between (indentedMembers depth (m :: members) ++ rest)
        = Token.scanFrom (.comma :: ts) .between (breakLine (depth + 1) ++
            (indentedMember (depth + 1) m ++ (indentedMembers depth members ++ rest))) := by
          simp only [indentedMembers, List.cons_append, List.append_assoc]
          rfl
      _ = Token.scanFrom ((laterMembers members).reverse ++ ((memberTokens m).reverse ++ .comma :: ts))
            .between rest := by
          rw [scan_breakLine,
            scan_member (depth + 1) m hparts.1 _ _ (breaks_indentedMembers depth members hr),
            scan_members depth members hparts.2 _ _ hr]
      _ = Token.scanFrom ((laterMembers (m :: members)).reverse ++ ts) .between rest := by
          simp [laterMembers]

theorem scan_member (depth : Nat) (m : Option String × Json) (hv : Spelled (memberTokens m))
    (ts : List Token) (rest : List Char) (hr : Token.Breaks rest) :
    Token.scanFrom ts .between (indentedMember depth m ++ rest) =
      Token.scanFrom ((memberTokens m).reverse ++ ts) .between rest := by
  match m with
  | (name, v) =>
    have hvalue : Spelled v.tokens := by
      simp only [memberTokens, spelled_cons] at hv
      exact hv.2.2
    calc Token.scanFrom ts .between (indentedMember depth (name, v) ++ rest)
        = Token.scanFrom ts .between (Token.chars (.text name) ++ (':' :: ' ' :: (indented depth v ++ rest))) := by
          simp only [indentedMember, List.append_assoc, List.cons_append, List.nil_append]
      _ = Token.scanFrom (.text name :: ts) .between (':' :: ' ' :: (indented depth v ++ rest)) :=
          Token.scan_quote ts name _
      _ = Token.scanFrom (v.tokens.reverse ++ .colon :: .text name :: ts) .between rest :=
          scan_indented depth v hvalue (.colon :: .text name :: ts) rest hr
      _ = Token.scanFrom ((memberTokens (name, v)).reverse ++ ts) .between rest := by
          simp [memberTokens]

end

theorem scan_pretty {v : Json} (hv : Spelled v.tokens) : Token.scan (v.indented 0) = some v.tokens := by
  have h := scan_indented 0 v hv [] [] trivial
  rw [List.append_nil, List.append_nil] at h
  simpa [Token.scan, Token.scanFrom, Token.finish] using h

/-! ### Tokens -/

namespace Reader

/-- A value starts with a token that closes nothing. -/
theorem tokens_start (v : Json) : ∃ t more, v.tokens = t :: more ∧ t ≠ .closeBracket := by
  cases v <;> exact ⟨_, _, rfl, nofun⟩

theorem next_firstItem (frames : List Frame) {t : Token} (ht : t ≠ .closeBracket) :
    next ⟨.firstItem, frames⟩ t = next ⟨.value, frames⟩ t := by
  cases t <;> first | exact absurd rfl ht | rfl

/-- The first item of an array is read as any value. -/
theorem run_firstItem (frames : List Frame) (v : Json) (rest : List Token) :
    run ⟨.firstItem, frames⟩ (v.tokens ++ rest) = run ⟨.value, frames⟩ (v.tokens ++ rest) := by
  obtain ⟨t, more, hv, ht⟩ := tokens_start v
  rw [hv, List.cons_append, run, run, next_firstItem frames ht]

theorem run_firstMember (done : List (Option String × Json)) (frames : List Frame)
    (m : Option String × Json) (rest : List Token) :
    run ⟨.firstName, .members done :: frames⟩ (memberTokens m ++ rest) =
      run ⟨.name, .members done :: frames⟩ (memberTokens m ++ rest) := by
  cases m
  rfl

mutual

/-- The tokens of a value are read as that value, wherever it stands. -/
theorem run_tokens (v : Json) (frames : List Frame) (rest : List Token) :
    run ⟨.value, frames⟩ (v.tokens ++ rest) = run (put v frames) rest := by
  match v with
  | .null => rfl
  | .bool b => rfl
  | .number lexeme => rfl
  | .text content => rfl
  | .array [] => rfl
  | .array (v :: items) =>
    calc run ⟨.value, frames⟩ (tokens (.array (v :: items)) ++ rest)
        = run ⟨.firstItem, .items [] :: frames⟩ (v.tokens ++ (laterItems items ++ .closeBracket :: rest)) := by
          simp only [tokens, firstItem, List.cons_append, List.append_assoc, List.nil_append]
          rfl
      _ = run ⟨.separator, .items [v] :: frames⟩ (laterItems items ++ .closeBracket :: rest) := by
          rw [run_firstItem, run_tokens v]
          rfl
      _ = run (put (.array (v :: items)) frames) rest := run_items items [v] frames rest
  | .object [] => rfl
  | .object (m :: members) =>
    calc run ⟨.value, frames⟩ (tokens (.object (m :: members)) ++ rest)
        = run ⟨.firstName, .members [] :: frames⟩
            (memberTokens m ++ (laterMembers members ++ .closeBrace :: rest)) := by
          simp only [tokens, firstMember, List.cons_append, List.append_assoc, List.nil_append]
          rfl
      _ = run ⟨.separator, .members [m] :: frames⟩ (laterMembers members ++ .closeBrace :: rest) := by
          rw [run_firstMember, run_member m]
      _ = run (put (.object (m :: members)) frames) rest := run_members members [m] frames rest

theorem run_items (items done : List Json) (frames : List Frame) (rest : List Token) :
    run ⟨.separator, .items done :: frames⟩ (laterItems items ++ .closeBracket :: rest) =
      run (put (.array (done.reverse ++ items)) frames) rest := by
  match items with
  | [] =>
    rw [List.append_nil]
    rfl
  | v :: items =>
    calc run ⟨.separator, .items done :: frames⟩ (laterItems (v :: items) ++ .closeBracket :: rest)
        = run ⟨.value, .items done :: frames⟩ (v.tokens ++ (laterItems items ++ .closeBracket :: rest)) := by
          simp only [laterItems, List.cons_append, List.append_assoc]
          rfl
      _ = run ⟨.separator, .items (v :: done) :: frames⟩ (laterItems items ++ .closeBracket :: rest) := by
          rw [run_tokens v]
          rfl
      _ = run (put (.array (done.reverse ++ v :: items)) frames) rest := by
          rw [run_items items (v :: done), List.reverse_cons, List.append_assoc]
          rfl

theorem run_members (members done : List (Option String × Json)) (frames : List Frame)
    (rest : List Token) :
    run ⟨.separator, .members done :: frames⟩ (laterMembers members ++ .closeBrace :: rest) =
      run (put (.object (done.reverse ++ members)) frames) rest := by
  match members with
  | [] =>
    rw [List.append_nil]
    rfl
  | m :: members =>
    calc run ⟨.separator, .members done :: frames⟩ (laterMembers (m :: members) ++ .closeBrace :: rest)
        = run ⟨.name, .members done :: frames⟩
            (memberTokens m ++ (laterMembers members ++ .closeBrace :: rest)) := by
          simp only [laterMembers, List.cons_append, List.append_assoc]
          rfl
      _ = run ⟨.separator, .members (m :: done) :: frames⟩ (laterMembers members ++ .closeBrace :: rest) :=
          run_member m done frames _
      _ = run (put (.object (done.reverse ++ m :: members)) frames) rest := by
          rw [run_members members (m :: done), List.reverse_cons, List.append_assoc]
          rfl

theorem run_member (m : Option String × Json) (done : List (Option String × Json)) (frames : List Frame)
    (rest : List Token) :
    run ⟨.name, .members done :: frames⟩ (memberTokens m ++ rest) =
      run ⟨.separator, .members (m :: done) :: frames⟩ rest := by
  match m with
  | (name, v) => exact run_tokens v (.member done name :: frames) rest

end

end Reader

theorem ofTokens?_tokens (v : Json) : ofTokens? v.tokens = some v := by
  have h := Reader.run_tokens v [] []
  rw [List.append_nil] at h
  unfold ofTokens?
  rw [h]
  rfl

/-- **What is written for a value is read as that value.** -/
theorem parse?_pretty {v : Json} (hv : Spelled v.tokens) : parse? v.pretty = some v := by
  rw [parse?, pretty, String.toList_ofList, scan_pretty hv]
  exact ofTokens?_tokens v

end KernelForge.Json
