import TypeResolution.Json.Printer
import TypeResolution.Proofs.Json.Limits

/-!
The tokens of printed text. The text of a value is a sequence of chunks, of which each gives
the same tokens wherever it stands (`Json.Lexes`). Only a number depends on what follows it,
since it could go on there, and in the text of a value it is followed by a comma, a bracket or
the end of the line. So printed text has the tokens that the value has by its structure,
however it is indented (`Json.Fits.lexes_indentedText`).
-/

namespace TypeResolution

def Number.IsWord (x : Number) : Prop := x.InRange ∧ ∃ value, x = .integer value

namespace Json

/-! ### The numbers of a value -/

mutual
def numbers : Json → List Number
  | .scalar (.number x) => [x]
  | .scalar _ => []
  | .array elements => elementNumbers elements
  | .object members => memberNumbers members

def elementNumbers : List Json → List Number
  | [] => []
  | element :: elements => numbers element ++ elementNumbers elements

def memberNumbers : List (String × Json) → List Number
  | [] => []
  | (_, value) :: members => numbers value ++ memberNumbers members
end

theorem elementNumbers_eq_flatMap (elements : List Json) :
    elementNumbers elements = elements.flatMap numbers := by
  induction elements with
  | nil => rfl
  | cons element elements ih => rw [elementNumbers, ih, List.flatMap_cons]

theorem memberNumbers_eq_flatMap (members : List (String × Json)) :
    memberNumbers members = members.flatMap fun e => e.2.numbers := by
  induction members with
  | nil => rfl
  | cons e members ih => rw [memberNumbers, ih, List.flatMap_cons]

/-- The number is printed without a point and without an exponent. -/
def Literal (x : Number) : Prop := '.' ∉ numberText x ∧ 'e' ∉ numberText x

instance (x : Number) : Decidable (Literal x) :=
  inferInstanceAs (Decidable (_ ∧ _))

/-- A floating-point number always has one of them. -/
theorem not_literal_float (x : Numeral.Binary64) : ¬Literal (.float x) := by
  have hdecimal (digits : List Char) (exponent : Int) :
      '.' ∈ decimalText digits exponent ∨ 'e' ∈ decimalText digits exponent := by
    unfold decimalText
    split
    · split <;> simp
    · simp
  rintro ⟨hpoint, hexponent⟩
  rw [numberText, floatText] at hpoint hexponent
  by_cases hzero : x.significand = 0
  · simp [hzero] at hpoint
  · simp only [if_neg hzero, List.mem_append, not_or] at hpoint hexponent
    rcases hdecimal _ _ with h | h
    · exact hpoint.2 h
    · exact hexponent.2 h

/-- A value in range with integer literals only has integers only. -/
theorem Fits.isWord {n : Nat} {j : Json} (h : j.Fits Number.InRange n)
    (hnumbers : ∀ x ∈ j.numbers, Literal x) : j.Fits Number.IsWord n := by
  induction h with
  | scalar hscalar =>
      refine .scalar ?_
      rintro x rfl
      cases x with
      | integer value => exact ⟨hscalar _ rfl, value, rfl⟩
      | float value => exact absurd (hnumbers _ List.mem_cons_self) (not_literal_float value)
  | array _ ih =>
      rw [numbers, elementNumbers_eq_flatMap] at hnumbers
      exact .array fun e he => ih e he fun x hx => hnumbers x (List.mem_flatMap.2 ⟨e, he, hx⟩)
  | object _ ih =>
      rw [numbers, memberNumbers_eq_flatMap] at hnumbers
      exact .object fun e he => ih e he fun x hx => hnumbers x (List.mem_flatMap.2 ⟨e, he, hx⟩)

/-! ### The tokens of a value -/

def scalarToken : Scalar → Token
  | .string content => .string (.ok content)
  | value => .literal (.ok value)

mutual
def tokens : Json → List Token
  | .scalar value => [scalarToken value]
  | .array [] => [.openArray, .closeArray]
  | .array (element :: elements) =>
    .openArray :: tokens element ++ elementTokens elements ++ [.closeArray]
  | .object [] => [.openObject, .closeObject]
  | .object ((name, value) :: members) =>
    .openObject :: .string (.ok name) :: .colon :: tokens value ++ memberTokens members ++
      [.closeObject]

def elementTokens : List Json → List Token
  | [] => []
  | element :: elements => .comma :: tokens element ++ elementTokens elements

def memberTokens : List (String × Json) → List Token
  | [] => []
  | (name, value) :: members =>
    .comma :: .string (.ok name) :: .colon :: tokens value ++ memberTokens members
end

/-! ### Chunks -/

/-- No number goes on into the text. -/
def NumberEnds (cs : List Char) : Prop :=
  ∀ c ∈ cs.head?, c.isDigit = false ∧ c ≠ '.' ∧ c ≠ 'e' ∧ c ≠ 'E'

theorem NumberEnds.append {cs ds : List Char} (h : NumberEnds cs) (h' : NumberEnds ds) :
    NumberEnds (cs ++ ds) := by
  cases cs with
  | nil => exact h'
  | cons c cs => exact h

/-- The chunk has the tokens, whatever follows that no number goes on into. -/
def Lexes (chunk : List Char) (ts : List Token) : Prop :=
  ∀ rest, NumberEnds rest →
    Lexing.between.tokens (chunk ++ rest) = ts ++ Lexing.between.tokens rest

namespace Lexes

variable {cs ds : List Char} {ts us : List Token}

theorem nil : Lexes [] [] := fun _ _ => rfl

theorem append (h : Lexes cs ts) (hends : NumberEnds ds) (h' : Lexes ds us) :
    Lexes (cs ++ ds) (ts ++ us) := by
  intro rest hrest
  rw [List.append_assoc, h _ (hends.append hrest), h' _ hrest, List.append_assoc]

/-- A character that is a token by itself. -/
theorem mark {c : Char} {token : Token} (hc : Lexing.start c = ([token], .between))
    (h : Lexes cs ts) : Lexes (c :: cs) (token :: ts) := by
  intro rest hrest
  change (Lexing.start c).1 ++ (Lexing.start c).2.tokens (cs ++ rest) = _
  rw [hc, h _ hrest]
  rfl

theorem blank {c : Char} (hc : Lexing.isBlank c = true) (h : Lexes cs ts) : Lexes (c :: cs) ts := by
  intro rest hrest
  change (Lexing.start c).1 ++ (Lexing.start c).2.tokens (cs ++ rest) = _
  rw [Lexing.start, if_pos hc, h _ hrest]
  rfl

theorem lineStart (depth : Nat) (h : Lexes cs ts) : Lexes (lineStart depth ++ cs) ts := by
  have hblanks (n : Nat) : Lexes (List.replicate n ' ' ++ cs) ts := by
    induction n with
    | zero => exact h
    | succ n ih => exact .blank (by decide) ih
  exact .blank (by decide) (hblanks _)

end Lexes

/-! ### Numbers -/

namespace Lexing

/-- Of the characters that can begin a token a digit is the last to be looked for. -/
theorem start_of_isDigit {c : Char} (h : c.isDigit = true) (hzero : c ≠ '0') :
    start c = ([], .number .whole ((WrittenNumber.start false).addDigit c)) := by
  have hne {x : Char} (hx : x.isDigit = false) : c ≠ x := by
    rintro rfl
    rw [h] at hx
    cases hx
  unfold start isBlank
  simp [h, hzero, hne (x := ' ') (by decide), hne (x := '\t') (by decide),
    hne (x := '\n') (by decide), hne (x := '\r') (by decide), hne (x := '[') (by decide),
    hne (x := ']') (by decide), hne (x := '\x7b') (by decide), hne (x := '\x7d') (by decide),
    hne (x := ',') (by decide), hne (x := ':') (by decide), hne (x := '"') (by decide),
    hne (x := 't') (by decide), hne (x := 'f') (by decide), hne (x := 'n') (by decide),
    hne (x := '-') (by decide)]

theorem tokens_number_whole {ds : List Char} (h : ∀ c ∈ ds, c.isDigit = true) (n : WrittenNumber)
    (rest : List Char) :
    (number .whole n).tokens (ds ++ rest) = (number .whole (ds.foldl .addDigit n)).tokens rest := by
  induction ds generalizing n with
  | nil => rfl
  | cons c ds ih =>
      obtain ⟨hc, hds⟩ := List.forall_mem_cons.1 h
      rw [List.cons_append, tokens, next, WrittenNumber.next, if_pos hc, List.foldl_cons, ← ih hds]
      rfl

/-- A number that may end does so before what it cannot go on into. -/
theorem tokens_number_of_ends {place : NumberPlace} (hplace : place = .zero ∨ place = .whole)
    (n : WrittenNumber) {rest : List Char} (hrest : NumberEnds rest) :
    (number place n).tokens rest = n.token :: between.tokens rest := by
  cases rest with
  | nil => rcases hplace with rfl | rfl <;> rfl
  | cons c rest =>
      obtain ⟨hdigit, hpoint, he, hE⟩ := hrest c rfl
      have hafter : n.afterWhole c = .complete := by simp [WrittenNumber.afterWhole, hpoint, he, hE]
      have hnext : n.next c place = .complete := by
        rcases hplace with rfl | rfl <;> simp [WrittenNumber.next, hdigit, hafter]
      rw [tokens, next, hnext]
      rfl

end Lexing

theorem exists_toDigits_eq_cons {n : Nat} (h : 0 < n) :
    ∃ c ds, Nat.toDigits 10 n = c :: ds ∧ c ≠ '0' := by
  induction n using Nat.strongRecOn with
  | ind n ih =>
      by_cases hn : n < 10
      · refine ⟨n.digitChar, [], Nat.toDigits_of_lt_base hn, ?_⟩
        rw [Ne, Nat.digitChar_eq_zero]
        omega
      · obtain ⟨c, ds, hdigits, hc⟩ := ih (n / 10) (by omega) (by omega)
        refine ⟨c, ds ++ [(n % 10).digitChar], ?_, hc⟩
        rw [Nat.toDigits_of_base_le (by decide) (by omega), hdigits]
        rfl

theorem isDigit_of_toDigits {n : Nat} {ds : List Char} (h : Nat.toDigits 10 n = ds) :
    ∀ d ∈ ds, d.isDigit = true := by
  rintro d hd
  rw [← h] at hd
  exact Nat.isDigit_of_mem_toDigits (by decide) (by decide) hd

theorem le_ofDigitChars (ds : List Char) (n : Nat) : n ≤ Nat.ofDigitChars 10 ds n := by
  induction ds generalizing n with
  | nil => exact Nat.le_refl n
  | cons c ds ih =>
      rw [Nat.ofDigitChars_cons]
      exact Nat.le_trans (by omega) (ih _)

namespace WrittenNumber

theorem addDigit_of_lt {n : WrittenNumber} {c : Char} (hfull : n.full = false)
    (h : n.extended c < UInt64.size) :
    n.addDigit c = { n with significand := .ofNat (n.extended c) } := by
  have hroom : n.hasRoom c = true := by rw [hasRoom, hfull, decide_eq_true h]; rfl
  rw [addDigit, if_pos hroom]

theorem foldl_addDigit {ds : List Char} {n : WrittenNumber} (hfull : n.full = false)
    (h : Nat.ofDigitChars 10 ds n.significand.toNat < UInt64.size) :
    ds.foldl addDigit n =
      { n with significand := .ofNat (Nat.ofDigitChars 10 ds n.significand.toNat) } := by
  induction ds generalizing n with
  | nil => simp
  | cons c ds ih =>
      have hcons : Nat.ofDigitChars 10 (c :: ds) n.significand.toNat =
          Nat.ofDigitChars 10 ds (n.extended c) := by
        rw [Nat.ofDigitChars_cons, Nat.mul_comm]
        rfl
      rw [hcons] at h ⊢
      -- a number does not get smaller by further digits, so there is room for each of them
      have hc : n.extended c < UInt64.size := Nat.lt_of_le_of_lt (le_ofDigitChars ds _) h
      have htoNat : (UInt64.ofNat (n.extended c)).toNat = n.extended c :=
        UInt64.toNat_ofNat_of_lt hc
      have hbehind := ih (n := { n with significand := .ofNat (n.extended c) }) hfull
        (by rwa [htoNat])
      rw [List.foldl_cons, addDigit_of_lt hfull hc, hbehind, htoNat]

def whole (negative : Bool) (n : Nat) : WrittenNumber :=
  ⟨negative, .ofNat n, 0, false, true, false, 0⟩

theorem token_whole_false {n : Nat} (h : n < 0x10000000000000000) :
    (whole false n).token = .literal (.ok (.number (.integer n))) := by
  have hfits : (whole false n).fits = true := rfl
  have hvalue : (whole false n).significand.toNat = n := UInt64.toNat_ofNat_of_lt h
  rw [token, number?, if_pos hfits, hvalue]
  rfl

theorem token_whole_true {n : Nat} (hpos : 0 < n) (h : n ≤ 0x8000000000000000) :
    (whole true n).token = .literal (.ok (.number (.integer (-n)))) := by
  have hvalue : (whole true n).significand.toNat = n :=
    UInt64.toNat_ofNat_of_lt (Nat.lt_of_le_of_lt h (by decide))
  have hfits : (whole true n).fits = true := by
    rw [fits, hvalue]
    simp [whole, h, Nat.ne_of_gt hpos]
  rw [token, number?, if_pos hfits, hvalue]
  rfl

end WrittenNumber

/-- The digits of a positive number after a sign or none, of which the first has been read. -/
theorem tokens_toDigits (negative : Bool) {n : Nat} {c : Char} {ds rest : List Char}
    (h : Nat.toDigits 10 n = c :: ds) (hn : n < 0x10000000000000000)
    (hrest : NumberEnds rest) :
    (Lexing.number .whole ((WrittenNumber.start negative).addDigit c)).tokens (ds ++ rest) =
      (WrittenNumber.whole negative n).token :: Lexing.between.tokens rest := by
  have hdigits := (List.forall_mem_cons.1 (isDigit_of_toDigits h)).2
  have hvalue : Nat.ofDigitChars 10 (Nat.toDigits 10 n)
      (WrittenNumber.start negative).significand.toNat = n := Nat.ofDigitChars_ten_toDigits
  have hread : ds.foldl .addDigit ((WrittenNumber.start negative).addDigit c) =
      WrittenNumber.whole negative n := by
    rw [← List.foldl_cons, ← h, WrittenNumber.foldl_addDigit rfl (by rwa [hvalue]), hvalue]
    rfl
  rw [Lexing.tokens_number_whole hdigits, hread, Lexing.tokens_number_of_ends (.inr rfl) _ hrest]

theorem lexes_integerText {value : Int} (h : Number.InRange (.integer value)) :
    Lexes (integerText value) [.literal (.ok (.number (.integer value)))] := by
  obtain ⟨hleast, hgreatest⟩ := h
  intro rest hrest
  cases value with
  | ofNat n =>
      cases n with
      | zero =>
          rw [integerText, Nat.toDigits_zero]
          exact Lexing.tokens_number_of_ends (.inl rfl) (WrittenNumber.start false) hrest
      | succ n =>
          obtain ⟨c, ds, hdigits, hzero⟩ := exists_toDigits_eq_cons (Nat.succ_pos n)
          have hc := isDigit_of_toDigits hdigits c List.mem_cons_self
          rw [Int.ofNat_eq_natCast] at hgreatest
          have htoken := WrittenNumber.token_whole_false (n := n + 1) (by omega)
          rw [integerText, hdigits]
          change (Lexing.start c).1 ++ (Lexing.start c).2.tokens (ds ++ rest) = _
          rw [Lexing.start_of_isDigit hc hzero, List.nil_append,
            tokens_toDigits _ hdigits (by omega) hrest, htoken]
          rfl
  | negSucc n =>
      obtain ⟨c, ds, hdigits, hzero⟩ := exists_toDigits_eq_cons (Nat.succ_pos n)
      have hc := isDigit_of_toDigits hdigits c List.mem_cons_self
      have htoken := WrittenNumber.token_whole_true (n := n + 1) (by omega) (by omega)
      have hsign : (WrittenNumber.start true).next c .sign =
          .reading .whole ((WrittenNumber.start true).addDigit c) := by
        rw [WrittenNumber.next, if_neg hzero, if_pos hc]
      rw [integerText, hdigits]
      change ((Lexing.number .sign (.start true)).next c (ds ++ rest)).1 ++
        ((Lexing.number .sign (.start true)).next c (ds ++ rest)).2.tokens (ds ++ rest) = _
      rw [Lexing.next, hsign]
      change (Lexing.number .whole ((WrittenNumber.start true).addDigit c)).tokens (ds ++ rest) = _
      rw [tokens_toDigits _ hdigits (by omega) hrest, htoken]
      rfl

/-! ### Strings -/

theorem hexValue?_hexDigit : ∀ n < 16, hexValue? (hexDigit n) = some n := by decide

theorem startCode_of_four (high : Option Nat) (a b c d : Char) (rest : List Char) :
    startCode high (a :: b :: c :: d :: rest) = .reading (.code 4 0 high) := by
  have ha := a.utf8Size_pos
  have hb := b.utf8Size_pos
  have hc := c.utf8Size_pos
  have hd := d.utf8Size_pos
  rw [startCode, if_neg]
  simp only [List.take_succ_cons, List.take_zero, List.foldl_cons, List.foldl_nil]
  omega

namespace Lexing

variable {place place' : StringPlace} {c d : Char} {read rest : List Char}

theorem tokens_string_reading (h : place.next c rest = .reading place') :
    (string place read).tokens (c :: rest) = (string place' read).tokens rest := by
  rw [tokens, next, h]
  rfl

theorem tokens_string_adding (h : place.next c rest = .adding d) :
    (string place read).tokens (c :: rest) = (string .plain (d :: read)).tokens rest := by
  rw [tokens, next, h]
  rfl

/-- A control character without a short escape is read back from its code. -/
theorem tokens_string_code (hc : c.toNat < 0x20) :
    (string .escape read).tokens
        ('u' :: '0' :: '0' :: hexDigit (c.toNat / 16) :: hexDigit (c.toNat % 16) :: rest) =
      (string .plain (c :: read)).tokens rest := by
  have hfirst := hexValue?_hexDigit (c.toNat / 16) (by omega)
  have hsecond := hexValue?_hexDigit (c.toNat % 16) (by omega)
  have hcode : ofCode (c.toNat / 16 * 16 + c.toNat % 16) none = .adding c := by
    have hlow : isLowSurrogate c.toNat = false := by simp [isLowSurrogate]; omega
    have hhigh : isHighSurrogate c.toNat = false := by simp [isHighSurrogate]; omega
    rw [Nat.div_add_mod']
    simp [ofCode, hlow, hhigh]
  have hstart : StringPlace.escape.next 'u'
      ('0' :: '0' :: hexDigit (c.toNat / 16) :: hexDigit (c.toNat % 16) :: rest) =
        .reading (.code 4 0 none) := startCode_of_four none _ _ _ _ rest
  have hzeros (missing : Nat) (rest : List Char) :
      (StringPlace.code (missing + 2) 0 none).next '0' rest =
        .reading (.code (missing + 1) 0 none) := rfl
  have hthird : (StringPlace.code 2 0 none).next (hexDigit (c.toNat / 16))
      (hexDigit (c.toNat % 16) :: rest) = .reading (.code 1 (c.toNat / 16) none) := by
    simp [StringPlace.next, hfirst]
  have hfourth : (StringPlace.code 1 (c.toNat / 16) none).next (hexDigit (c.toNat % 16)) rest =
      .adding c := by
    simp only [StringPlace.next, hsecond, Nat.le_refl, if_true, hcode]
  rw [tokens_string_reading hstart, tokens_string_reading (hzeros 2 _),
    tokens_string_reading (hzeros 1 _), tokens_string_reading hthird,
    tokens_string_adding hfourth]

theorem tokens_controlText (hc : c.toNat < 0x20) :
    (string .plain read).tokens (controlText c ++ rest) =
      (string .plain (c :: read)).tokens rest := by
  unfold controlText
  by_cases hb : c = '\x08'
  · subst hb
    rfl
  by_cases hf : c = '\x0c'
  · subst hf
    rfl
  by_cases hn : c = '\n'
  · subst hn
    rfl
  by_cases hr : c = '\r'
  · subst hr
    rfl
  by_cases ht : c = '\t'
  · subst ht
    rfl
  rw [if_neg hb, if_neg hf, if_neg hn, if_neg hr, if_neg ht]
  exact tokens_string_code hc

/-- A printed character is added to what has been read, however it is written. -/
theorem tokens_charText :
    (string .plain read).tokens (charText c ++ rest) = (string .plain (c :: read)).tokens rest := by
  unfold charText
  by_cases hquote : c = '"'
  · subst hquote
    rfl
  by_cases hbackslash : c = '\\'
  · subst hbackslash
    rfl
  rw [if_neg hquote, if_neg hbackslash]
  by_cases hcontrol : c.toNat < 0x20
  · rw [if_pos hcontrol]
    exact tokens_controlText hcontrol
  · have hplain : StringPlace.plain.next c rest = .adding c := by
      rw [StringPlace.next, if_neg hquote, if_neg hbackslash, if_neg hcontrol]
    rw [if_neg hcontrol, List.singleton_append, tokens_string_adding hplain]

theorem tokens_flatMap_charText (cs : List Char) :
    (string .plain read).tokens (cs.flatMap charText ++ '"' :: rest) =
      .string (.ok (String.ofList (read.reverse ++ cs))) :: between.tokens rest := by
  induction cs generalizing read with
  | nil =>
      rw [List.append_nil]
      rfl
  | cons c cs ih =>
      rw [List.flatMap_cons, List.append_assoc, tokens_charText, ih, List.reverse_cons,
        List.append_assoc]
      rfl

end Lexing

/-- A string ends by itself, so it does not matter what follows. -/
theorem tokens_stringText (s : String) (rest : List Char) :
    Lexing.between.tokens (stringText s ++ rest) =
      .string (.ok s) :: Lexing.between.tokens rest := by
  have hchars : stringText s ++ rest = '"' :: (s.toList.flatMap charText ++ '"' :: rest) := by
    simp [stringText]
  rw [hchars]
  change (Lexing.string .plain []).tokens _ = _
  rw [Lexing.tokens_flatMap_charText, List.reverse_nil, List.nil_append, String.ofList_toList]

theorem lexes_stringText (s : String) : Lexes (stringText s) [.string (.ok s)] :=
  fun rest _ => tokens_stringText s rest

/-! ### Values -/

theorem lexes_scalarText {value : Scalar} (h : ∀ x, value = .number x → x.IsWord) :
    Lexes (scalarText value) [scalarToken value] := by
  cases value with
  | null => exact fun rest _ => rfl
  | bool value => cases value <;> exact fun rest _ => rfl
  | number x =>
      obtain ⟨hrange, value, rfl⟩ := h _ rfl
      exact lexes_integerText hrange
  | string content => exact lexes_stringText content

theorem numberEnds_cons {c : Char} (h : c.isDigit = false ∧ c ≠ '.' ∧ c ≠ 'e' ∧ c ≠ 'E')
    (cs : List Char) : NumberEnds (c :: cs) := by
  rintro d hd
  cases hd
  exact h

theorem numberEnds_lineStart (depth : Nat) : NumberEnds (lineStart depth) :=
  numberEnds_cons (by decide) _

theorem numberEnds_indentedElements (depth : Nat) (elements : List Json) :
    NumberEnds (indentedElements depth elements) := by
  cases elements with
  | nil => nofun
  | cons element elements => exact numberEnds_cons (by decide) _

theorem numberEnds_indentedMembers (depth : Nat) (members : List (String × Json)) :
    NumberEnds (indentedMembers depth members) := by
  cases members with
  | nil => nofun
  | cons member members => exact numberEnds_cons (by decide) _

theorem lexes_indentedElements {depth : Nat} {elements : List Json}
    (h : ∀ element ∈ elements, Lexes (indentedText depth element) element.tokens) :
    Lexes (indentedElements depth elements) (elementTokens elements) := by
  induction elements with
  | nil => exact .nil
  | cons element elements ih =>
      obtain ⟨helement, helements⟩ := List.forall_mem_cons.1 h
      have hchunk := helement.append (numberEnds_indentedElements depth elements) (ih helements)
      simp only [indentedElements, elementTokens, List.cons_append, List.append_assoc]
      exact .mark rfl (.lineStart depth hchunk)

theorem lexes_member (name : String) {depth : Nat} {value : Json} {cs : List Char}
    {ts : List Token} (hvalue : Lexes (indentedText depth value) value.tokens)
    (hends : NumberEnds cs) (hrest : Lexes cs ts) :
    Lexes (stringText name ++ ':' :: ' ' :: (indentedText depth value ++ cs))
      (.string (.ok name) :: .colon :: (value.tokens ++ ts)) := by
  have hafter := Lexes.blank (c := ' ') (by decide) (hvalue.append hends hrest)
  have hchunk := Lexes.mark (c := ':') rfl hafter
  exact (lexes_stringText name).append (numberEnds_cons (by decide) _) hchunk

theorem lexes_indentedMembers {depth : Nat} {members : List (String × Json)}
    (h : ∀ e ∈ members, Lexes (indentedText depth e.2) e.2.tokens) :
    Lexes (indentedMembers depth members) (memberTokens members) := by
  induction members with
  | nil => exact .nil
  | cons member members ih =>
      obtain ⟨name, value⟩ := member
      obtain ⟨hvalue, hmembers⟩ := List.forall_mem_cons.1 h
      have hends := numberEnds_indentedMembers depth members
      have hchunk := lexes_member name hvalue hends (ih hmembers)
      simp only [indentedMembers, memberTokens, List.cons_append, List.append_assoc]
      exact .mark rfl (.lineStart depth hchunk)

theorem lexes_ending {c : Char} {token : Token} (hc : Lexing.start c = ([token], .between))
    (depth : Nat) : Lexes (lineStart depth ++ [c]) [token] :=
  .lineStart depth (.mark hc .nil)

/-- The text of a value without floating-point numbers has the tokens of the value. -/
theorem Fits.lexes_indentedText {n : Nat} {j : Json} (h : j.Fits Number.IsWord n) (depth : Nat) :
    Lexes (j.indentedText depth) j.tokens := by
  induction h generalizing depth with
  | scalar hscalar => exact lexes_scalarText hscalar
  | @array _ elements _ ih =>
      cases elements with
      | nil => exact .mark rfl (.mark rfl .nil)
      | cons element elements =>
          obtain ⟨helement, helements⟩ := List.forall_mem_cons.1 ih
          have hends : NumberEnds (lineStart depth ++ [']']) :=
            (numberEnds_lineStart depth).append (numberEnds_cons (by decide) [])
          have hrest := (lexes_indentedElements fun e he => helements e he (depth + 1)).append hends
            (lexes_ending rfl depth)
          have hchunk := (helement (depth + 1)).append
            ((numberEnds_indentedElements _ elements).append hends) hrest
          simp only [indentedText, tokens, List.cons_append, List.append_assoc]
          exact .mark rfl (.lineStart (depth + 1) hchunk)
  | @object _ members _ ih =>
      cases members with
      | nil => exact .mark rfl (.mark rfl .nil)
      | cons member members =>
          obtain ⟨name, value⟩ := member
          obtain ⟨hvalue, hmembers⟩ := List.forall_mem_cons.1 ih
          have hends : NumberEnds (lineStart depth ++ ['\x7d']) :=
            (numberEnds_lineStart depth).append (numberEnds_cons (by decide) [])
          have hrest := (lexes_indentedMembers fun e he => hmembers e he (depth + 1)).append hends
            (lexes_ending rfl depth)
          have hchunk := lexes_member name (hvalue (depth + 1))
            ((numberEnds_indentedMembers _ members).append hends) hrest
          simp only [indentedText, tokens, List.cons_append, List.append_assoc]
          exact .mark rfl (.lineStart (depth + 1) hchunk)

end Json

end TypeResolution
