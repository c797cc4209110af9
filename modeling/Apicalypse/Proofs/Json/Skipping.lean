import Apicalypse.Proofs.Json.Spelling

/-!
# Skipping values

A value whose content does not matter is passed over, whatever it is.

* `Unbroken`: tokens without a string that breaks off.
* `unbroken_of_tokens_eq`: in a text such a string is the last token, so an object holds none.
* `skip_tokens`: skipping passes over the tokens of a value and stops there.
-/

namespace Apicalypse.Json

/-! ## Strings that break off -/

/-- No string among the tokens breaks off. -/
def Unbroken (tokens : List Token) : Prop :=
  ∀ literal, Token.string literal ∈ tokens → literal.broken = none

theorem unbroken_nil : Unbroken [] := nofun

theorem unbroken_cons {token : Token} {tokens : List Token} : Unbroken (token :: tokens) ↔
    (∀ literal, token = .string literal → literal.broken = none) ∧ Unbroken tokens := by
  simp only [Unbroken, List.mem_cons, or_imp, forall_and, eq_comm]

theorem unbroken_append {tokens later : List Token} :
    Unbroken (tokens ++ later) ↔ Unbroken tokens ∧ Unbroken later := by
  simp only [Unbroken, List.mem_append, or_imp, forall_and]

theorem unbroken_memberTokens {member : StringLiteral × Spelling} :
    Unbroken (Spelling.memberTokens member) ↔
      member.1.broken = none ∧ Unbroken member.2.tokens := by
  obtain ⟨name, value⟩ := member
  simp [Spelling.memberTokens, unbroken_cons]

theorem unbroken_dropLast_cons {token : Token} {tokens : List Token}
    (htoken : ∀ literal, token = .string literal → literal.broken = none)
    (h : Unbroken tokens.dropLast) : Unbroken (token :: tokens).dropLast := by
  cases tokens with
  | nil => exact unbroken_nil
  | cons next later =>
    rw [List.dropLast_cons_cons]
    exact unbroken_cons.mpr ⟨htoken, h⟩

namespace Scanner

/-- A word that is being read stands for no string. -/
def State.Sound : State → Prop
  | .word _ token => ∀ literal, token ≠ .string literal
  | _ => True

/-- A character between two tokens is no string, and starts no word that stands for one. -/
theorem start_cases (c : Char) :
    (∀ token, start c = .token token → ∀ literal, token ≠ .string literal) ∧
      ∀ state, start c = .state state → state.Sound := by
  unfold start
  split
  all_goals
    refine ⟨fun token h => ?_, fun state h => ?_⟩
    all_goals (try split at h) <;> (try split at h) <;> cases h <;> simp [State.Sound]

/-- In the tokens of a text, only the last one may be a string that breaks off. -/
theorem unbroken_dropLast_run {state : State} (cs : List Char) (h : state.Sound) :
    Unbroken (run state cs).dropLast := by
  fun_induction run state cs with
  | case9 c rest token _ hstart ih =>
    exact unbroken_dropLast_cons (fun _ hs => absurd hs ((start_cases c).1 _ hstart _)) (ih trivial)
  | case10 c rest state hstart ih => exact ih ((start_cases c).2 _ hstart)
  | case13 token c rest ih =>
    exact unbroken_dropLast_cons (fun literal hs => absurd hs (h literal)) (ih trivial)
  | case15 letters token c rest _ ih => exact ih h
  | case20 => exact unbroken_dropLast_cons nofun unbroken_nil
  | case21 _ _ c rest _ _ _ _ token _ hstart ih =>
    refine unbroken_dropLast_cons nofun (unbroken_dropLast_cons (fun _ hs => ?_) (ih trivial))
    exact absurd hs ((start_cases c).1 _ hstart _)
  | case22 _ _ c rest _ _ _ _ state hstart ih =>
    exact unbroken_dropLast_cons nofun (ih ((start_cases c).2 _ hstart))
  | case23 _ _ _ _ _ _ _ _ _ ih => exact unbroken_dropLast_cons nofun (ih trivial)
  | case24 pieces rest ih =>
    exact unbroken_dropLast_cons (by rintro _ ⟨⟩; rfl) (ih trivial)
  -- The others break off here, or take a character into a token.
  | _ => first | exact unbroken_nil | (rename_i ih; exact ih trivial)

end Scanner

theorem unbroken_list_iff (items : List Spelling) :
    Unbroken (Spelling.list items).tokens ↔ Unbroken (Spelling.tokensAfterItem items) := by
  cases items <;> simp [Spelling.tokens, Spelling.tokensAfterItem, unbroken_cons, unbroken_nil]

theorem unbroken_object_iff (members : List (StringLiteral × Spelling)) :
    Unbroken (Spelling.object members).tokens ↔ Unbroken (Spelling.tokensAfterMember members) := by
  cases members <;> simp [Spelling.tokens, Spelling.tokensAfterMember, unbroken_cons, unbroken_nil]

theorem exists_tokensAfterMember_eq (members : List (StringLiteral × Spelling)) :
    ∃ front, Spelling.tokensAfterMember members = front ++ [.closeObject] := by
  induction members with
  | nil => exact ⟨[], rfl⟩
  | cons member later ih =>
    obtain ⟨front, hfront⟩ := ih
    exact ⟨.comma :: (Spelling.memberTokens member ++ front),
      by simp [Spelling.tokensAfterMember, hfront]⟩

/-- In a text that is an object no string breaks off. -/
theorem unbroken_of_tokens_eq {text : List Char} {members : List (StringLiteral × Spelling)}
    (h : tokens text = (Spelling.object members).tokens) :
    Unbroken (Spelling.object members).tokens := by
  have hfront : Unbroken (Spelling.object members).tokens.dropLast :=
    h ▸ Scanner.unbroken_dropLast_run text trivial
  cases members with
  | nil => exact (unbroken_object_iff []).mpr (unbroken_cons.mpr ⟨nofun, unbroken_nil⟩)
  | cons member later =>
    obtain ⟨front, hlater⟩ := exists_tokensAfterMember_eq later
    rw [Spelling.tokens, hlater, ← List.append_assoc, ← List.cons_append] at hfront ⊢
    rw [List.dropLast_concat] at hfront
    exact unbroken_append.mpr ⟨hfront, unbroken_cons.mpr ⟨nofun, unbroken_nil⟩⟩

/-! ## Skipping a spelling -/

namespace Reading

/-- A literal that is spelt well completes what waits for it. -/
theorem run_skimming_literal {token : Token} {stack : List Frame} {value : Value}
    (h : skimming.startValue stack token = .ok (complete value stack)) (rest : List Token) :
    skimming.run stack .value (token :: rest) = skimming.resume value stack rest := by
  rw [run, step, h]
  unfold resume
  cases complete value stack <;> rfl

theorem text_skimming {literal : StringLiteral} (h : literal.broken = none) :
    skimming.text literal = .ok "" := by
  simp only [skimming, h]

mutual

/-- Skipping passes over a value without a string that breaks off, and goes on with some value. -/
theorem exists_run_skimming (spelling : Spelling) (h : Unbroken spelling.tokens)
    (stack : List Frame) (rest : List Token) : ∃ value,
      skimming.run stack .value (spelling.tokens ++ rest) = skimming.resume value stack rest := by
  match spelling with
  | .null => exact ⟨_, run_skimming_literal rfl rest⟩
  | .boolean b => exact ⟨_, run_skimming_literal rfl rest⟩
  | .number literal => exact ⟨_, run_skimming_literal rfl rest⟩
  | .string literal =>
    have htext := text_skimming (h literal (by simp [Spelling.tokens]))
    exact ⟨.string "", run_skimming_literal (by rw [startValue, htext]; rfl) rest⟩
  | .list items =>
    rw [run_list]
    exact exists_run_skimming_afterItem items ((unbroken_list_iff items).mp h) [] stack rest
  | .object members =>
    rw [run_object]
    exact exists_run_skimming_afterMember members ((unbroken_object_iff members).mp h) [] stack rest

theorem exists_run_skimming_afterItem (items : List Spelling)
    (h : Unbroken (Spelling.tokensAfterItem items)) (before : List Value) (stack : List Frame)
    (rest : List Token) : ∃ value,
      skimming.run stack (.afterItem before) (Spelling.tokensAfterItem items ++ rest) =
        skimming.resume value stack rest := by
  match items with
  | [] => exact ⟨_, run_closeList skimming before stack rest⟩
  | item :: later =>
    rw [Spelling.tokensAfterItem, unbroken_cons, unbroken_append] at h
    obtain ⟨value, hvalue⟩ := exists_run_skimming item h.2.1 (.list before :: stack)
      (Spelling.tokensAfterItem later ++ rest)
    rw [Spelling.tokensAfterItem, List.cons_append, List.append_assoc]
    obtain ⟨list, hlist⟩ :=
      exists_run_skimming_afterItem later h.2.2 (value :: before) stack rest
    exact ⟨list, hvalue.trans hlist⟩

theorem exists_run_skimming_afterMember (members : List (StringLiteral × Spelling))
    (h : Unbroken (Spelling.tokensAfterMember members)) (before : List (String × Value))
    (stack : List Frame) (rest : List Token) : ∃ value,
      skimming.run stack (.afterMember before) (Spelling.tokensAfterMember members ++ rest) =
        skimming.resume value stack rest := by
  match members with
  | [] => exact ⟨_, run_closeObject skimming before stack rest⟩
  | (name, spelling) :: later =>
    rw [Spelling.tokensAfterMember, unbroken_cons, unbroken_append, unbroken_memberTokens] at h
    obtain ⟨-, ⟨hname, hspelling⟩, hlater⟩ := h
    obtain ⟨value, hvalue⟩ := exists_run_skimming spelling hspelling (.member before "" :: stack)
      (Spelling.tokensAfterMember later ++ rest)
    obtain ⟨object, hobject⟩ :=
      exists_run_skimming_afterMember later hlater (("", value) :: before) stack rest
    refine ⟨object, ?_⟩
    have hstart : skimming.run stack (.afterMember before)
        (Spelling.tokensAfterMember ((name, spelling) :: later) ++ rest) =
        skimming.run (.member before "" :: stack) .value
          (spelling.tokens ++ (Spelling.tokensAfterMember later ++ rest)) := by
      rw [Spelling.tokensAfterMember, Spelling.memberTokens]
      simp only [List.cons_append, List.append_assoc, run, step, readName,
        text_skimming hname]
      rfl
    rw [hstart, hvalue]
    exact hobject

end

end Reading

/-- Skipping passes over a value without a string that breaks off, and stops at what follows. -/
theorem skip_tokens {spelling : Spelling} (h : Unbroken spelling.tokens) (rest : List Token) :
    skip (spelling.tokens ++ rest) = .ok rest := by
  obtain ⟨value, hvalue⟩ := Reading.exists_run_skimming spelling h [] rest
  rw [skip, hvalue]
  rfl

end Apicalypse.Json
