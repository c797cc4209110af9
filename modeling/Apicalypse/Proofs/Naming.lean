import Apicalypse.Proofs.FilterDocument.Matching
import Apicalypse.Proofs.Json.Shape
import Apicalypse.Proofs.Settings
import Apicalypse.Proofs.Sorting

/-!
# Named settings

Directions, cases and tiers are known by name. Each is read from a text and from JSON, and written
as a word and as JSON.

* `Json.WritesString`: the texts of a JSON string.
* `Naming`: the names of a type, how its values are read from a text and written as a word, and its
  names in JSON. `SortOrder.naming`, `Case.naming` and `Tier.naming` are the three of them.
* `Naming.Agrees`: both readers know the same names, the one in any case and the other in lower
  case, and both read what either writer writes.
* `Naming.agrees`: this follows when reader, writer and names in JSON each fit the names;
  `Naming.agrees_of_word`: so it does when they each fit the word, where that is the only name.
* `named_settings_agree`: this holds of all three.
-/

namespace Apicalypse

/-! ## Strings of JSON -/

namespace Json

/-- The text is a JSON string with the content. Blanks may stand around it and escapes in it. -/
def WritesString (text content : String) : Prop :=
  ∃ literal : StringLiteral, tokens text.toList = [.string literal] ∧ literal.text = .ok content

theorem writesString_render (content : String) :
    WritesString (Value.string content).render content := by
  have htokens := tokens_encode content.toList []
  rw [List.append_nil] at htokens
  refine ⟨literalOf content.toList, ?_, text_literalOf content⟩
  rw [Value.render, Value.write, String.toList_ofList, htokens]
  rfl

/-- A JSON string is read as the value that its content names. -/
theorem parse_read_eq_ok_iff {α : Type} {text content : String} (h : WritesString text content)
    (enumeration : Enumeration α) (x : α) :
    parse enumeration.read text = .ok x ↔ enumeration.ofName? content = some x := by
  obtain ⟨literal, htokens, htext⟩ := h
  have hread := readNamed_tokens_eq_ok_iff enumeration.ofName? (.string literal) [] x []
  rw [List.append_nil] at hread
  rw [parse_eq_ok_iff, htokens]
  refine hread.trans ?_
  simp [Spelling.Names, htext]

end Json

/-! ## Readers and writers -/

/-- How the values of a type are known by name. -/
structure Naming (α : Type) where
  /-- All names of a value, in lower case. -/
  names : α → List String
  /-- The value that a text names. -/
  parse? : String → Option α
  /-- The word for a value. -/
  word : α → String
  /-- The names in JSON. -/
  json : Json.Enumeration α

namespace Naming

variable {α : Type} (naming : Naming α)

/-- The readers and the writers go by the same names. -/
structure Agrees : Prop where
  /-- A text is read when it is a name but for the case of its ASCII letters. -/
  parse (text : String) (x : α) :
    naming.parse? text = some x ↔ ∃ name ∈ naming.names x, Text.IsCaseVariant text name
  ascii (text : String) (x : α) (h : naming.parse? text = some x) : ∀ c ∈ text.toList, c.toNat < 128
  /-- A JSON string is read when it is a name. -/
  json (text content : String) (h : Json.WritesString text content) (x : α) :
    Json.parse naming.json.read text = .ok x ↔ content ∈ naming.names x
  /-- What is read from a JSON string is read from its content too. -/
  same (text content : String) (h : Json.WritesString text content) (x : α)
    (hjson : Json.parse naming.json.read text = .ok x) : naming.parse? content = some x
  /-- Both readers read the word for a value. -/
  word (x : α) : naming.parse? (naming.word x) = some x ∧
    Json.parse naming.json.read (Json.Value.string (naming.word x)).render = .ok x
  /-- Both readers read the name of a value in JSON. -/
  name (x : α) : naming.parse? (naming.json.name x) = some x ∧
    Json.parse naming.json.read (naming.json.toJson x).render = .ok x

variable {naming}

/-- Readers and writers agree when each of them fits the names, and no name has a letter that is the
small form of a character outside of ASCII. -/
theorem agrees
    (hparse : ∀ text x,
      naming.parse? text = some x ↔ ∃ name ∈ naming.names x, Text.IsCaseVariant text name)
    (hjson : ∀ name x, naming.json.ofName? name = some x ↔ name ∈ naming.names x)
    (hletters : ∀ x, ∀ name ∈ naming.names x, ∀ d ∈ name.toList, Text.IsNameLetter d)
    (hword : ∀ x, naming.word x ∈ naming.names x)
    (hname : ∀ x, naming.json.name x ∈ naming.names x) : naming.Agrees := by
  have json (text content : String) (h : Json.WritesString text content) (x : α) :
      Json.parse naming.json.read text = .ok x ↔ content ∈ naming.names x := by
    rw [Json.parse_read_eq_ok_iff h, hjson]
  have exact (content : String) (x : α) (h : content ∈ naming.names x) :
      naming.parse? content = some x :=
    (hparse content x).mpr ⟨content, h, Text.isCaseVariant_self (hletters x content h)⟩
  have written (content : String) (x : α) (h : content ∈ naming.names x) :
      naming.parse? content = some x ∧
        Json.parse naming.json.read (Json.Value.string content).render = .ok x :=
    ⟨exact content x h, (json _ content (Json.writesString_render content) x).mpr h⟩
  refine ⟨hparse, fun text x h => ?_, json, fun text content h x hread => ?_,
    fun x => written _ x (hword x), fun x => written _ x (hname x)⟩
  · obtain ⟨name, hmem, hvariant⟩ := (hparse text x).mp h
    exact hvariant.ascii (hletters x name hmem)
  · exact exact content x ((json text content h x).mp hread)

/-- The same where a value has no name but its word. -/
theorem agrees_of_word (hnames : ∀ x, naming.names x = [naming.word x])
    (hparse : ∀ text x, naming.parse? text = some x ↔ Text.IsCaseVariant text (naming.word x))
    (hjson : ∀ name x, naming.json.ofName? name = some x ↔ name = naming.word x)
    (hletters : ∀ x, ∀ d ∈ (naming.word x).toList, Text.IsNameLetter d)
    (hname : ∀ x, naming.json.name x = naming.word x) : naming.Agrees := by
  have hmem (name : String) (x : α) : name ∈ naming.names x ↔ name = naming.word x := by
    rw [hnames, List.mem_singleton]
  refine agrees (fun text x => ?_) (fun name x => ?_) (fun x name h => ?_) (fun x => ?_)
    fun x => ?_
  · simp only [hmem, exists_eq_left]
    exact hparse text x
  · rw [hmem]
    exact hjson name x
  · rw [(hmem name x).mp h]
    exact hletters x
  · exact (hmem _ x).mpr rfl
  · exact (hmem _ x).mpr (hname x)

end Naming

/-! ## Directions, cases and tiers -/

/-- The names of the directions. -/
def SortOrder.naming : Naming SortOrder where
  names
    | .ascending => ["asc", "ascending"]
    | .descending => ["desc", "descending"]
  parse? := SortOrder.parse?
  word := SortOrder.token
  json := SortOrder.json

/-- The names of the cases. -/
def Case.naming : Naming Case where
  names
    | .sensitive => ["sensitive"]
    | .insensitive => ["insensitive"]
  parse? := Case.parse?
  word := Case.name
  json := Case.json

/-- The names of the tiers. -/
def Tier.naming : Naming Tier where
  names
    | .free => ["free"]
    | .pro => ["pro"]
    | .partner => ["partner"]
  parse? := Tier.parse?
  word := Tier.name
  json := Tier.json

theorem SortOrder.naming_agrees : SortOrder.naming.Agrees := by
  have hnames : SortOrder.naming.names = SortOrder.names := by
    funext order
    cases order <;> rfl
  refine Naming.agrees (fun text order => ?_) (fun name order => ?_) ?_ (fun order => ?_)
    fun order => ?_
  · rw [hnames]
    exact parse?_eq_some_iff text order
  · rw [hnames]
    exact ofName?_json_eq_some_iff name order
  · rw [hnames]
    exact isNameLetter_of_mem_names
  · cases order <;> simp [SortOrder.naming, token]
  · have hname : json.name order ∈ json.names order := List.mem_cons_self
    rwa [names_json, List.mem_reverse, ← hnames] at hname

theorem Case.isNameLetter_of_mem_name (case : Case) :
    ∀ d ∈ case.name.toList, Text.IsNameLetter d := by
  cases case <;> simp [Case.name, Text.IsNameLetter]

/-- A case is known by its name in any case. -/
theorem Case.parse?_eq_some_iff (text : String) (case : Case) :
    parse? text = some case ↔ Text.IsCaseVariant text case.name := by
  rw [← Text.lowercase_eq_iff case.isNameLetter_of_mem_name, parse?]
  split <;> cases case <;> simp_all [Case.name]

theorem Case.naming_agrees : Case.naming.Agrees :=
  Naming.agrees_of_word (fun case => by cases case <;> rfl) parse?_eq_some_iff
    ofName?_json_eq_some_iff isNameLetter_of_mem_name
    fun case => (List.cons.inj (names_json case)).1

theorem Tier.naming_agrees : Tier.naming.Agrees :=
  Naming.agrees_of_word (fun tier => by cases tier <;> rfl) parse?_eq_some_iff
    ofName?_json_eq_some_iff isNameLetter_of_mem_name
    fun tier => (List.cons.inj (names_json tier)).1

/-- **Named settings.** For directions, cases and tiers, a text is read when it is one of the names
in any case, and such a text is all ASCII; a JSON string is read when it is one of the names in
lower case, with the same outcome. What either writer writes is read back by both readers. -/
theorem named_settings_agree :
    SortOrder.naming.Agrees ∧ Case.naming.Agrees ∧ Tier.naming.Agrees :=
  ⟨SortOrder.naming_agrees, Case.naming_agrees, Tier.naming_agrees⟩

end Apicalypse
