import Apicalypse.Proofs.Json.Number

/-!
# Values of a wanted shape

What the readers of names and of 64-bit numbers accept, as values that are spelt.

* `parse_eq_ok_iff`: a text is read when a value is read that ends with it.
* `Spelling.Names`: the spellings of a name. `readNamed_tokens_eq_ok_iff` says what is read of them.
* `Spelling.WritesWord`: the spellings of a 64-bit number or of none, likewise for
  `readWord?_tokens_eq_ok_iff`.
-/

namespace Apicalypse.Json

namespace Spelling

/-- The spelling is a name: a string, or an object with that name for a member that is `null`. -/
def Names (name : String) : Spelling → Prop
  | string literal => literal.text = .ok name
  | object [(literal, null)] => literal.text = .ok name
  | _ => False

/-- The spelling is a 64-bit number, or `null` for none. -/
def WritesWord (n : Option UInt64) : Spelling → Prop
  | null => n = none
  | number literal => ∃ m, n = some m ∧ literal.number = .ok (.integer m.toNat)
  | _ => False

end Spelling

theorem bind_eq_ok_iff {α β : Type} {first : Except Failure α} {next : α → Except Failure β}
    {b : β} : first >>= next = .ok b ↔ ∃ a, first = .ok a ∧ next a = .ok b := by
  cases first <;> simp [bind, Except.bind]

/-- A text is read when nothing follows the value that is read from its start. -/
theorem parse_eq_ok_iff {α : Type} (read : List Token → Except Failure (α × List Token))
    (text : String) (x : α) :
    parse read text = .ok x ↔ read (tokens text.toList) = .ok (x, []) := by
  simp only [parse, bind_eq_ok_iff, Prod.exists]
  constructor
  · rintro ⟨y, rest, hread, _, hfinish, hx⟩
    obtain rfl := Except.ok.inj hx
    cases rest with
    | nil => exact hread
    | cons token rest => cases hfinish
  · exact fun hread => ⟨x, [], hread, (), rfl, rfl⟩

/-! ## Names -/

theorem readNull_tokens_eq_ok_iff (spelling : Spelling) (later rest : List Token) :
    readNull (spelling.tokens ++ later) = .ok rest ↔ spelling = .null ∧ later = rest := by
  match spelling with
  | .null => simp [Spelling.tokens, readNull]
  | .boolean _ | .number _ | .string _ | .list [] | .list (_ :: _) | .object []
  | .object (_ :: _) => simp [Spelling.tokens, readNull]

/-- An object is a name when it has one member, and that is `null`. -/
theorem readNamed_object_eq_ok_iff {α : Type} (ofName? : String → Option α)
    (literal : StringLiteral) (value : Spelling) (members : List (StringLiteral × Spelling))
    (later : List Token) (x : α) (rest : List Token) :
    readNamed ofName? ((Spelling.object ((literal, value) :: members)).tokens ++ later) =
        .ok (x, rest) ↔
      (∃ name, literal.text = .ok name ∧ ofName? name = some x) ∧ value = .null ∧ members = [] ∧
        later = rest := by
  have hvalue := readNull_tokens_eq_ok_iff value (Spelling.tokensAfterMember members ++ later)
  simp only [Spelling.tokens, Spelling.memberTokens, List.cons_append, List.append_assoc, readNamed,
    readName, expect]
  cases literal.text with
  | error failure => simp [bind, Except.bind]
  | ok name =>
    simp only [bind, Except.bind, pure, Except.pure, ↓reduceIte, Except.ok.injEq, exists_eq_left']
    cases ofName? name with
    | none => simp [throw, throwThe, MonadExceptOf.throw]
    | some y =>
      cases hnull : readNull (value.tokens ++ (Spelling.tokensAfterMember members ++ later)) with
      | error failure =>
        have hne : value ≠ .null := by
          rintro rfl
          rw [(hvalue _).mpr ⟨rfl, rfl⟩] at hnull
          cases hnull
        simp [hne]
      | ok after =>
        obtain ⟨rfl, rfl⟩ := (hvalue after).mp hnull
        cases members <;> simp [Spelling.tokensAfterMember]

theorem readNamed_tokens_eq_ok_iff {α : Type} (ofName? : String → Option α) (spelling : Spelling)
    (later : List Token) (x : α) (rest : List Token) :
    readNamed ofName? (spelling.tokens ++ later) = .ok (x, rest) ↔
      (∃ name, spelling.Names name ∧ ofName? name = some x) ∧ later = rest := by
  match spelling with
  | .null | .boolean _ | .number _ | .list [] | .list (_ :: _) =>
    simp [Spelling.tokens, readNamed, Spelling.Names]
  | .object [] => simp [Spelling.tokens, readNamed, Spelling.Names, readName, bind, Except.bind]
  | .string literal =>
    rw [Spelling.tokens, List.singleton_append, readNamed]
    cases htext : literal.text with
    | error failure => simp [bind, Except.bind, Spelling.Names, htext]
    | ok name =>
      cases hname : ofName? name <;>
        simp [bind, Except.bind, Spelling.Names, htext, hname, pure, Except.pure, throw, throwThe,
          MonadExceptOf.throw]
  | .object ((literal, value) :: members) =>
    rw [readNamed_object_eq_ok_iff]
    cases value <;> cases members <;> simp [Spelling.Names]

/-! ## 64-bit numbers -/

theorem readWord?_tokens_eq_ok_iff (spelling : Spelling) (later : List Token) (n : Option UInt64)
    (rest : List Token) : readWord? (spelling.tokens ++ later) = .ok (n, rest) ↔
      spelling.WritesWord n ∧ later = rest := by
  match spelling with
  | .null => simp [Spelling.tokens, readWord?, Spelling.WritesWord, eq_comm]
  | .boolean _ | .string _ | .list [] | .list (_ :: _) | .object [] | .object (_ :: _) =>
    simp [Spelling.tokens, readWord?, Spelling.WritesWord]
  | .number literal =>
    rw [Spelling.tokens, List.singleton_append, readWord?]
    cases hnumber : literal.number with
    | error failure => simp [bind, Except.bind, Spelling.WritesWord, hnumber]
    | ok number =>
      match number with
      | .float _ _ | .integer (.negSucc _) => simp [bind, Except.bind, Spelling.WritesWord, hnumber,
          throw, throwThe, MonadExceptOf.throw]
      | .integer (.ofNat m) =>
        have hm := UInt64.toNat_ofNat_of_lt' (NumberLiteral.lt_of_number_eq hnumber)
        have hword (word : UInt64) : m = word.toNat ↔ UInt64.ofNat m = word := by
          rw [← UInt64.toNat_inj, hm]
        simp only [bind, Except.bind, pure, Except.pure, Spelling.WritesWord, hnumber,
          Except.ok.injEq, Number.integer.injEq, Int.ofNat_eq_natCast, Int.natCast_inj, hword,
          Prod.mk.injEq, exists_eq_right, eq_comm]

end Apicalypse.Json
