import Apicalypse.Proofs.Json.Spelling
import Apicalypse.Proofs.Text.Decimal

/-!
# Scanning compact texts

The compact text of a value is read as that value again.

* `literalOf`: a string as it is written, with the escapes of `encode`; `tokens_encode` and
  `text_literalOf` scan it and give it its meaning.
* `integerLiteral`: an integer as it is written; `tokens_decimal` and `number_integerLiteral` do the
  same for it. Integers between `-2^63` and `2^64 - 1` are read without loss.
* `Value.Integral`: the values whose numbers are such integers.
* `Integral.scanned`: the text of such a value is scanned as a spelling of it, which
  `Integral.read_render` reads.
-/

namespace Apicalypse.Json

/-! ## Strings -/

/-- The characters that are written with a letter after a backslash. -/
def shortEscaped : List Char := ['"', '\\', '\n', '\r', '\t', '\x08', '\x0c']

/-- The piece of a string that a character is written as. -/
def pieceOf (c : Char) : Piece :=
  if c < ' ' ∧ c ∉ shortEscaped then .unit c.toNat else .char c

theorem encodeChar_eq {c : Char} (h : c ∉ shortEscaped) : encodeChar c =
    if c < ' ' then ['\\', 'u', '0', '0', hexDigit (c.toNat / 16), hexDigit (c.toNat % 16)]
    else [c] := by
  simp only [shortEscaped, List.mem_cons, List.not_mem_nil, or_false, not_or] at h
  simp [encodeChar, h]

theorem hexValue?_hexDigit {n : Nat} (h : n < 16) : Text.hexValue? (hexDigit n) = some n :=
  (by decide : ∀ n < 16, Text.hexValue? (hexDigit n) = some n) n h

theorem length_le_utf8ByteSize (cs : List Char) :
    cs.length ≤ (String.ofList cs).utf8ByteSize := by
  induction cs with
  | nil => simp
  | cons c rest ih =>
    rw [String.ofList_cons, String.utf8ByteSize_append]
    have := Char.utf8Size_pos c
    simp
    omega

theorem run_unit (pieces : List Piece) (value left : Nat) {digit : Nat} (h : digit < 16)
    (rest : List Char) :
    Scanner.run (.unit pieces value left) (hexDigit digit :: rest) =
      if left ≤ 1 then Scanner.run (.string (.unit (16 * value + digit) :: pieces)) rest
      else Scanner.run (.unit pieces (16 * value + digit) (left - 1)) rest := by
  rw [Scanner.run, hexValue?_hexDigit h]

/-- A unit of four digits. -/
theorem run_escapedUnit (pieces : List Piece) {code : Nat} (h : code < 256) (rest : List Char) :
    Scanner.run (.string pieces)
        ('\\' :: 'u' :: '0' :: '0' :: hexDigit (code / 16) :: hexDigit (code % 16) :: rest) =
      Scanner.run (.string (.unit code :: pieces)) rest := by
  have hsize := length_le_utf8ByteSize
    ('0' :: '0' :: hexDigit (code / 16) :: hexDigit (code % 16) :: rest)
  have hsize : ¬ (String.ofList ('0' :: '0' :: hexDigit (code / 16) :: hexDigit (code % 16) ::
      rest)).utf8ByteSize < 4 := by
    simp only [List.length_cons] at hsize
    omega
  rw [Scanner.run]
  simp only [Char.reduceEq, ↓reduceIte]
  rw [Scanner.run, show shortEscape? 'u' = none from rfl]
  simp only [ne_eq, not_true_eq_false, ↓reduceIte, hsize]
  have hzero : '0' = hexDigit 0 := rfl
  rw [hzero, run_unit _ _ _ (by decide), run_unit _ _ _ (by decide),
    run_unit _ _ _ (by omega), run_unit _ _ _ (by omega)]
  have hcode : 16 * (16 * (16 * (16 * 0 + 0) + 0) + code / 16) + code % 16 = code := by omega
  simp only [Nat.reduceLeDiff, Nat.reduceSub, ↓reduceIte, hcode]

theorem run_encodeChar (pieces : List Piece) (c : Char) (rest : List Char) :
    Scanner.run (.string pieces) (encodeChar c ++ rest) =
      Scanner.run (.string (pieceOf c :: pieces)) rest := by
  by_cases hshort : c ∈ shortEscaped
  · simp only [shortEscaped, List.mem_cons, List.not_mem_nil, or_false] at hshort
    rcases hshort with rfl | rfl | rfl | rfl | rfl | rfl | rfl <;> rfl
  · rw [encodeChar_eq hshort, pieceOf]
    by_cases hcontrol : c < ' '
    · rw [if_pos hcontrol, if_pos ⟨hcontrol, hshort⟩]
      exact run_escapedUnit pieces (Nat.lt_trans hcontrol (by decide)) rest
    · rw [if_neg hcontrol, if_neg (fun h => hcontrol h.1)]
      simp only [shortEscaped, List.mem_cons, List.not_mem_nil, or_false, not_or] at hshort
      simp [Scanner.run, hshort, hcontrol]

/-- The literal of a string as it is written. -/
def literalOf (text : List Char) : StringLiteral := ⟨text.map pieceOf, none⟩

theorem run_flatMap_encodeChar (text : List Char) (pieces : List Piece) (rest : List Char) :
    Scanner.run (.string pieces) (text.flatMap encodeChar ++ rest) =
      Scanner.run (.string ((text.map pieceOf).reverse ++ pieces)) rest := by
  induction text generalizing pieces with
  | nil => rfl
  | cons c text ih =>
    rw [List.flatMap_cons, List.append_assoc, run_encodeChar, ih]
    simp

/-- A text between quotes is scanned as one string. -/
theorem tokens_encode (text rest : List Char) :
    tokens (encode text ++ rest) = .string (literalOf text) :: tokens rest := by
  have hopen : tokens (encode text ++ rest) =
      Scanner.run (.string []) (text.flatMap encodeChar ++ '"' :: rest) := by
    simp [tokens, encode, Scanner.run, Scanner.start]
  rw [hopen, run_flatMap_encodeChar]
  simp [Scanner.run, literalOf, tokens]

theorem decode_pieceOf_cons (c : Char) (pieces : List Piece) :
    decode none (pieceOf c :: pieces) = (c :: ·) <$> decode none pieces := by
  unfold pieceOf
  split
  case isFalse => rw [decode]
  case isTrue h =>
    have hsmall : c.toNat < 32 := h.1
    have hlow : isLowUnit c.toNat = false := by simp [isLowUnit]; omega
    have hhigh : isHighUnit c.toNat = false := by simp [isHighUnit]; omega
    rw [decode.eq_def]
    simp [hlow, hhigh, Char.ofNat_toNat]

/-- A string literal means the text that it was written for. -/
theorem text_literalOf (text : String) : (literalOf text.toList).text = .ok text := by
  have hdecode (cs : List Char) : decode none (cs.map pieceOf) = .ok cs := by
    induction cs with
    | nil => rfl
    | cons c rest ih => rw [List.map_cons, decode_pieceOf_cons, ih]; rfl
  rw [StringLiteral.text, literalOf, hdecode]
  simp [Functor.map, Except.map]

/-! ## Numbers -/

/-- Nothing that could go on with a number follows: the text ends, or a list or an object goes on
or ends. -/
def Follows (rest : List Char) : Prop := ∀ c ∈ rest.head?, c = ',' ∨ c = ']' ∨ c = '\x7d'

theorem start_digit {c : Char} (h : c.isDigit = true) :
    Scanner.start c = .state (.number false (.whole [c])) := by
  unfold Scanner.start
  split <;> first | contradiction | simp [h]

/-- Digits go on with the digits before the point. -/
theorem run_whole_append (negative : Bool) {digits before : List Char}
    (hdigits : ∀ d ∈ digits, d.isDigit = true) (hbefore : before ≠ [])
    (hzero : before = ['0'] → digits = []) (rest : List Char) :
    Scanner.run (.number negative (.whole before)) (digits ++ rest) =
      Scanner.run (.number negative (.whole (digits.reverse ++ before))) rest := by
  induction digits generalizing before with
  | nil => rfl
  | cons d digits ih =>
    rw [List.forall_mem_cons] at hdigits
    have hlonger : Scanner.NumberPart.extend? d (.whole before) = some (.whole (d :: before)) := by
      have hbefore' : before ≠ ['0'] := fun h => by cases hzero h
      simp [Scanner.NumberPart.extend?, hdigits.1, hbefore']
    rw [List.cons_append, Scanner.run, hlonger]
    refine (ih hdigits.2 (by simp) ?_).trans (by simp)
    intro h
    exact absurd (List.cons.inj h).2 hbefore

/-- A whole number ends where nothing follows that could go on with it. -/
theorem run_whole_of_follows (negative : Bool) (before : List Char) {rest : List Char}
    (h : Follows rest) : Scanner.run (.number negative (.whole before)) rest =
      .number ⟨negative, before.reverse, none, none⟩ :: tokens rest := by
  cases rest with
  | nil => rfl
  | cons c rest => rcases h c rfl with rfl | rfl | rfl <;> rfl

/-- A numeral is read up to what follows it. -/
theorem run_numeral (negative : Bool) {c : Char} {digits : List Char}
    (hdigits : ∀ d ∈ digits, d.isDigit = true) (hzero : c = '0' → digits = []) {rest : List Char}
    (h : Follows rest) : Scanner.run (.number negative (.whole [c])) (digits ++ rest) =
      .number ⟨negative, c :: digits, none, none⟩ :: tokens rest := by
  have hlone : [c] = ['0'] → digits = [] := fun h => hzero (List.cons.inj h).1
  rw [run_whole_append negative hdigits (by simp) hlone, run_whole_of_follows negative _ h]
  simp

/-- The literal of an integer as it is written. -/
def integerLiteral : Int → NumberLiteral
  | .ofNat n => ⟨false, Text.digits n, none, none⟩
  | .negSucc n => ⟨true, Text.digits (n + 1), none, none⟩

/-- A numeral is scanned as one number. -/
theorem tokens_decimal (n : Int) {rest : List Char} (h : Follows rest) :
    tokens ((Text.decimal n).toList ++ rest) = .number (integerLiteral n) :: tokens rest := by
  cases n with
  | ofNat n =>
    obtain ⟨c, digits, hn, hc, hdigits, hzero⟩ := Text.exists_digits_cons n
    rw [Text.decimal, String.toList_ofList, integerLiteral, hn, List.cons_append, tokens,
      Scanner.run, start_digit hc]
    exact run_numeral false hdigits hzero h
  | negSucc n =>
    obtain ⟨c, digits, hn, hc, hdigits, hzero⟩ := Text.exists_digits_cons (n + 1)
    have hsign : Scanner.NumberPart.extend? c .sign = some (.whole [c]) := by
      simp [Scanner.NumberPart.extend?, hc]
    rw [Text.decimal, String.toList_ofList, integerLiteral, hn, List.cons_append, List.cons_append,
      tokens, Scanner.run, show Scanner.start '-' = .state (.number true .sign) from rfl]
    show Scanner.run (.number true .sign) (c :: (digits ++ rest)) = _
    rw [Scanner.run, hsign]
    exact run_numeral true hdigits hzero h

theorem gather_eq {digits : List Char} {value : Nat}
    (h : Nat.ofDigitChars 10 digits value < UInt64.size) :
    gather value digits = (Nat.ofDigitChars 10 digits value, 0) := by
  induction digits generalizing value with
  | nil => rfl
  | cons c digits ih =>
    rw [Nat.ofDigitChars_cons] at h ⊢
    have hnext := Nat.lt_of_le_of_lt (Text.le_ofDigitChars digits _) h
    simp only [gather, hnext, ↓reduceIte, ih h]

/-- An integer within the bounds is read from its literal. -/
theorem number_integerLiteral {n : Int} (hleast : -(Nat.pow 2 63 : Nat) ≤ n)
    (hgreatest : n < (Nat.pow 2 64 : Nat)) :
    (integerLiteral n).number = .ok (.integer n) := by
  rw [Nat.pow_eq] at hleast hgreatest
  have hgather {m : Nat} (h : m < UInt64.size) : gather 0 (Text.digits m) = (m, 0) := by
    rw [gather_eq (by rwa [Text.ofDigitChars_digits]), Text.ofDigitChars_digits]
  have hinteger : (integerLiteral n).integer? = some n := by
    cases n with
    | ofNat n =>
      have hn : n < UInt64.size := by
        rw [Int.ofNat_eq_natCast] at hgreatest
        rw [UInt64.size]
        omega
      simp [integerLiteral, NumberLiteral.integer?, hgather hn]
    | negSucc n =>
      have hn : n + 1 < UInt64.size := by
        rw [UInt64.size]
        omega
      have hbound : n + 1 ≤ 9223372036854775808 := by omega
      simp [integerLiteral, NumberLiteral.integer?, hgather hn, hbound, Int.negSucc_eq]
  rw [NumberLiteral.number, hinteger]

/-! ## Values -/

namespace Value

/-- Every number in the value is an integer that is written without loss. -/
inductive Integral : Value → Prop
  | null : Integral .null
  | boolean (value : Bool) : Integral (.boolean value)
  | string (text : String) : Integral (.string text)
  | integer {n : Int} (hleast : -(Nat.pow 2 63 : Nat) ≤ n)
      (hgreatest : n < (Nat.pow 2 64 : Nat)) : Integral (.number (.integer n))
  | list {items : List Value} (h : ∀ item ∈ items, Integral item) : Integral (.list items)
  | object {members : List (String × Value)} (h : ∀ member ∈ members, Integral member.2) :
      Integral (.object members)

/-- The text of the value is scanned as a spelling of it. -/
def Scanned (value : Value) : Prop :=
  ∃ spelling : Spelling, spelling.value? = some value ∧ ∀ rest, Follows rest →
    tokens (value.write ++ rest) = spelling.tokens ++ tokens rest

/-- The text after an item that more items follow. -/
def textAfterItem (items : List Value) (rest : List Char) : List Char :=
  items.flatMap (fun item => ',' :: item.write) ++ ']' :: rest

/-- The text after a member that more members follow. -/
def textAfterMember (members : List (String × Value)) (rest : List Char) : List Char :=
  members.flatMap (fun member => ',' :: writeMember member) ++ '\x7d' :: rest

theorem follows_textAfterItem (items : List Value) (rest : List Char) :
    Follows (textAfterItem items rest) := by
  cases items <;> simp [Follows, textAfterItem]

theorem follows_textAfterMember (members : List (String × Value)) (rest : List Char) :
    Follows (textAfterMember members rest) := by
  cases members <;> simp [Follows, textAfterMember]

theorem writeItems_cons (first : Value) (later : List Value) (rest : List Char) :
    writeItems (first :: later) ++ ']' :: rest = first.write ++ textAfterItem later rest := by
  induction later generalizing first with
  | nil => simp [writeItems, textAfterItem]
  | cons next later ih =>
    rw [writeItems, List.append_assoc, List.cons_append, ih]
    simp [textAfterItem]

theorem writeMembers_cons (first : String × Value) (later : List (String × Value))
    (rest : List Char) : writeMembers (first :: later) ++ '\x7d' :: rest =
      writeMember first ++ textAfterMember later rest := by
  induction later generalizing first with
  | nil => simp [writeMembers, textAfterMember]
  | cons next later ih =>
    rw [writeMembers, List.append_assoc, List.cons_append, ih]
    simp [textAfterMember]

theorem tokens_textAfterItem {items : List Value} (h : ∀ item ∈ items, item.Scanned) :
    ∃ spellings, Spelling.values? spellings = some items ∧ ∀ rest,
      tokens (textAfterItem items rest) = Spelling.tokensAfterItem spellings ++ tokens rest := by
  induction items with
  | nil => exact ⟨[], rfl, fun rest => rfl⟩
  | cons item later ih =>
    rw [List.forall_mem_cons] at h
    obtain ⟨⟨spelling, hvalue, htokens⟩, hlater⟩ := h
    obtain ⟨spellings, hvalues, hrest⟩ := ih hlater
    refine ⟨spelling :: spellings, by simp [Spelling.values?, hvalue, hvalues], fun rest => ?_⟩
    have htext : textAfterItem (item :: later) rest =
        ',' :: (item.write ++ textAfterItem later rest) := by simp [textAfterItem]
    rw [htext, Spelling.tokensAfterItem]
    show Token.comma :: tokens (item.write ++ textAfterItem later rest) = _
    rw [htokens _ (follows_textAfterItem later rest), hrest]
    simp

theorem tokens_writeMember (name : String) {value : Value} (h : value.Scanned) :
    ∃ spelling, Spelling.member? spelling = some (name, value) ∧ ∀ rest, Follows rest →
      tokens (writeMember (name, value) ++ rest) =
        Spelling.memberTokens spelling ++ tokens rest := by
  obtain ⟨spelling, hvalue, htokens⟩ := h
  refine ⟨(literalOf name.toList, spelling), ?_, fun rest hrest => ?_⟩
  · simp [Spelling.member?, text_literalOf, hvalue, Except.toOption]
  · rw [writeMember, List.append_assoc, tokens_encode, Spelling.memberTokens]
    show _ :: Token.colon :: tokens (value.write ++ rest) = _
    rw [htokens rest hrest]
    rfl

theorem tokens_textAfterMember {members : List (String × Value)}
    (h : ∀ member ∈ members, member.2.Scanned) :
    ∃ spellings, Spelling.members? spellings = some members ∧ ∀ rest,
      tokens (textAfterMember members rest) =
        Spelling.tokensAfterMember spellings ++ tokens rest := by
  induction members with
  | nil => exact ⟨[], rfl, fun rest => rfl⟩
  | cons member later ih =>
    obtain ⟨name, value⟩ := member
    rw [List.forall_mem_cons] at h
    obtain ⟨spelling, hmember, htokens⟩ := tokens_writeMember name h.1
    obtain ⟨spellings, hmembers, hrest⟩ := ih h.2
    refine ⟨spelling :: spellings, by simp [Spelling.members?, hmember, hmembers], fun rest => ?_⟩
    have htext : textAfterMember ((name, value) :: later) rest =
        ',' :: (writeMember (name, value) ++ textAfterMember later rest) := by
      simp [textAfterMember]
    rw [htext, Spelling.tokensAfterMember]
    show Token.comma :: tokens (writeMember (name, value) ++ textAfterMember later rest) = _
    rw [htokens _ (follows_textAfterMember later rest), hrest]
    simp

/-- **Scanning a compact text.** The text of a value is scanned as a spelling of that value. -/
theorem Integral.scanned {value : Value} (h : value.Integral) : value.Scanned := by
  induction value using Value.induction with
  | null => exact ⟨.null, rfl, fun rest _ => rfl⟩
  | boolean b =>
    refine ⟨.boolean b, rfl, fun rest _ => ?_⟩
    cases b <;> rfl
  | number n =>
    cases h with
    | @integer n hleast hgreatest =>
      refine ⟨.number (integerLiteral n), ?_, fun rest hrest => ?_⟩
      · rw [Spelling.value?, number_integerLiteral hleast hgreatest]
        rfl
      · exact tokens_decimal _ hrest
  | string text =>
    refine ⟨.string (literalOf text.toList), ?_, fun rest _ => tokens_encode text.toList rest⟩
    rw [Spelling.value?, text_literalOf]
    rfl
  | list items ih =>
    cases h with
    | list hitems =>
    match items with
    | [] => exact ⟨.list [], rfl, fun rest _ => rfl⟩
    | first :: later =>
      have hscanned : ∀ item ∈ first :: later, item.Scanned := fun item hitem =>
        ih item hitem (hitems item hitem)
      rw [List.forall_mem_cons] at hscanned
      obtain ⟨spelling, hvalue, htokens⟩ := hscanned.1
      obtain ⟨spellings, hvalues, hlater⟩ := tokens_textAfterItem hscanned.2
      refine ⟨.list (spelling :: spellings),
        by simp [Spelling.value?, Spelling.values?, hvalue, hvalues], fun rest _ => ?_⟩
      rw [write, List.cons_append, List.append_assoc, List.singleton_append, writeItems_cons]
      show Token.openList :: tokens (first.write ++ textAfterItem later rest) = _
      rw [htokens _ (follows_textAfterItem later rest), hlater, Spelling.tokens]
      simp
  | object members ih =>
    cases h with
    | object hmembers =>
    match members with
    | [] => exact ⟨.object [], rfl, fun rest _ => rfl⟩
    | (name, value) :: later =>
      have hscanned : ∀ member ∈ (name, value) :: later, member.2.Scanned := fun member hmember =>
        ih member hmember (hmembers member hmember)
      rw [List.forall_mem_cons] at hscanned
      obtain ⟨spelling, hvalue, htokens⟩ := tokens_writeMember name hscanned.1
      obtain ⟨spellings, hvalues, hlater⟩ := tokens_textAfterMember hscanned.2
      refine ⟨.object (spelling :: spellings),
        by simp [Spelling.value?, Spelling.members?, hvalue, hvalues], fun rest _ => ?_⟩
      rw [write, List.cons_append, List.append_assoc, List.singleton_append, writeMembers_cons]
      show Token.openObject :: tokens (writeMember (name, value) ++ textAfterMember later rest) = _
      rw [htokens _ (follows_textAfterMember later rest), hlater, Spelling.tokens]
      simp

/-- **Reading a compact text.** The text of a value that does not nest too deep is read as that
value. -/
theorem Integral.read_render {value : Value} (h : value.Integral)
    (hdepth : value.depth ≤ Reading.maxDepth) :
    read (tokens value.render.toList) = .ok (value, []) := by
  obtain ⟨spelling, hvalue, htokens⟩ := h.scanned
  rw [render, String.toList_ofList, read_eq_ok_iff]
  refine ⟨spelling, ?_, hvalue, hdepth⟩
  have := htokens [] (by simp [Follows])
  rw [List.append_nil] at this
  exact this

end Value

end Apicalypse.Json
