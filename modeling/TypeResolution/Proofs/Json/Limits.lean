import TypeResolution.Proofs.Decoding

/-!
The limits of values that have been read. Integers come from the lexer and are within 64 bits,
and no more containers are open at once than the reader allows, so a value is nested no deeper
than that (`Json.fits_of_parse`). The reader does not count: how much room there is left
inside the open containers is said by `Json.FramesFit`, which every step keeps.
-/

namespace TypeResolution

/-- Integers are within 64 bits, with a sign or without. -/
def Number.InRange : Number → Prop
  | .integer value => -0x8000000000000000 ≤ value ∧ value < 0x10000000000000000
  | .float _ => True

namespace Json

open Reading (closed_eq_ok_iff)

/-- The value has numbers of some sort only, and is nested no deeper than `n`. -/
inductive Fits (sort : Number → Prop) : Nat → Json → Prop
  | scalar {n : Nat} {value : Scalar} (h : ∀ x, value = .number x → sort x) :
      Fits sort n (.scalar value)
  | array {n : Nat} {elements : List Json} (h : ∀ element ∈ elements, Fits sort n element) :
      Fits sort (n + 1) (.array elements)
  | object {n : Nat} {members : List (String × Json)} (h : ∀ e ∈ members, Fits sort n e.2) :
      Fits sort (n + 1) (.object members)

/-! ### Tokens -/

def Token.InRange (token : Token) : Prop :=
  ∀ x, token = .literal (.ok (.number x)) → x.InRange

theorem Token.inRange_of_ne {token : Token} (h : ∀ x, token ≠ .literal (.ok (.number x))) :
    token.InRange := fun x hx => absurd hx (h x)

def Lexing.NoNumber : Lexing → Prop
  | .word _ value => ∀ x, value ≠ .number x
  | _ => True

theorem WrittenNumber.inRange_token (n : WrittenNumber) : n.token.InRange := by
  intro x hx
  rw [token, number?] at hx
  by_cases hfits : n.fits
  · rw [if_pos hfits] at hx
    cases hx
    obtain ⟨-, hsign⟩ := Bool.and_eq_true_iff.1 hfits
    have hlt := n.significand.toNat_lt
    unfold Number.InRange
    cases hnegative : n.negative with
    | true =>
        rw [hnegative, Bool.not_true, Bool.false_or] at hsign
        obtain ⟨-, hle⟩ := Bool.and_eq_true_iff.1 hsign
        have hle := of_decide_eq_true hle
        rw [if_pos rfl]
        omega
    | false =>
        rw [if_neg Bool.false_ne_true]
        omega
  · rw [if_neg hfits] at hx
    split at hx
    · cases hx
      trivial
    · cases hx

namespace Lexing

def Sound (step : List Token × Lexing) : Prop := (∀ token ∈ step.1, token.InRange) ∧ step.2.NoNumber

theorem Sound.ite {p : Prop} [Decidable p] {step step' : List Token × Lexing} (h : Sound step)
    (h' : Sound step') : Sound (if p then step else step') := by
  split
  · exact h
  · exact h'

/-- A token that is no number, or none at all, before a state that is none. -/
theorem Sound.of_forall {ts : List Token} {state : Lexing}
    (hts : ∀ token ∈ ts, ∀ x, token ≠ .literal (.ok (.number x))) (hstate : state.NoNumber) :
    Sound (ts, state) :=
  ⟨fun token htoken => Token.inRange_of_ne (hts token htoken), hstate⟩

theorem sound_start (c : Char) : Sound (start c) := by
  unfold start
  repeat' apply Sound.ite
  all_goals exact .of_forall (by simp) (by simp [NoNumber])

theorem sound_next {state : Lexing} (h : state.NoNumber) (c : Char) (rest : List Char) :
    Sound (state.next c rest) := by
  cases state with
  | between => exact sound_start c
  | word expected value =>
      cases expected with
      | nil => exact sound_start c
      | cons first further =>
          have hlast : Sound ([.literal (.ok value)], .between) := by
            refine .of_forall ?_ trivial
            rintro token htoken x rfl
            cases List.mem_singleton.1 htoken
            exact h x rfl
          exact .ite (.of_forall (by simp) trivial) (.ite hlast (.of_forall (by simp) h))
  | number place n =>
      obtain ⟨htokens, hstate⟩ := sound_start c
      rw [next]
      cases n.next c place with
      | reading place n => exact .of_forall (by simp) trivial
      | complete => exact ⟨List.forall_mem_cons.2 ⟨n.inRange_token, htokens⟩, hstate⟩
      | malformed => exact .of_forall (by simp) trivial
  | string place read =>
      rw [next]
      cases place.next c rest with
      | malformed e => exact .of_forall (by simp) trivial
      | _ => exact .of_forall (by simp) trivial

theorem inRange_atEnd (state : Lexing) : ∀ token ∈ state.atEnd, token.InRange := by
  cases state with
  | between => nofun
  | word expected value => exact List.forall_mem_singleton.2 (Token.inRange_of_ne nofun)
  | string place read => exact List.forall_mem_singleton.2 (Token.inRange_of_ne nofun)
  | number place n =>
      rw [atEnd]
      split
      · exact List.forall_mem_singleton.2 n.inRange_token
      · exact List.forall_mem_singleton.2 (Token.inRange_of_ne nofun)

theorem inRange_tokens (cs : List Char) {state : Lexing} (h : state.NoNumber) :
    ∀ token ∈ state.tokens cs, token.InRange := by
  induction cs generalizing state with
  | nil => exact inRange_atEnd state
  | cons c cs ih =>
      obtain ⟨htokens, hstate⟩ := sound_next h c cs
      rw [tokens, List.forall_mem_append]
      exact ⟨htokens, ih hstate⟩

end Lexing

/-! ### Readings -/

inductive Reading.Fits : Nat → Reading → Prop
  | broken {n : Nat} (e : SyntaxError) : Fits n (.broken e)
  | scalar {n : Nat} {value : Scalar} (h : ∀ x, value = .number x → x.InRange) :
      Fits n (.scalar value)
  | array {n : Nat} {elements : List Reading} {ending : Option SyntaxError}
      (h : ∀ element ∈ elements, Fits n element) : Fits (n + 1) (.array elements ending)
  | object {n : Nat} {members : List (String × Reading)} {ending : Option SyntaxError}
      (h : ∀ e ∈ members, Fits n e.2) : Fits (n + 1) (.object members ending)

theorem fits_of_elementsToJson {n : Nat} {elements : List Reading} {values : List Json}
    (h : ∀ element ∈ elements, ∀ j, element.toJson = .ok j → j.Fits Number.InRange n)
    (hvalues : Reading.elementsToJson elements = .ok values) :
    ∀ value ∈ values, value.Fits Number.InRange n := by
  induction elements generalizing values with
  | nil =>
      cases hvalues
      nofun
  | cons element elements ih =>
      obtain ⟨helement, helements⟩ := List.forall_mem_cons.1 h
      simp only [Reading.elementsToJson, bind_eq_ok_iff] at hvalues
      obtain ⟨j, hj, others, hothers, heq⟩ := hvalues
      cases heq
      exact List.forall_mem_cons.2 ⟨helement j hj, ih helements hothers⟩

theorem fits_of_membersToJson {n : Nat} {members : List (String × Reading)}
    {values : List (String × Json)}
    (h : ∀ e ∈ members, ∀ j, e.2.toJson = .ok j → j.Fits Number.InRange n)
    (hvalues : Reading.membersToJson members = .ok values) :
    ∀ e ∈ values, e.2.Fits Number.InRange n := by
  induction members generalizing values with
  | nil =>
      cases hvalues
      nofun
  | cons member members ih =>
      obtain ⟨name, r⟩ := member
      obtain ⟨hmember, hmembers⟩ := List.forall_mem_cons.1 h
      simp only [Reading.membersToJson, bind_eq_ok_iff] at hvalues
      obtain ⟨j, hj, others, hothers, heq⟩ := hvalues
      cases heq
      exact List.forall_mem_cons.2 ⟨hmember j hj, ih hmembers hothers⟩

theorem Reading.Fits.toJson {n : Nat} {r : Reading} (h : r.Fits n) :
    ∀ j, r.toJson = .ok j → j.Fits Number.InRange n := by
  induction h with
  | broken e => nofun
  | scalar h =>
      rintro j hj
      cases hj
      exact .scalar h
  | array _ ih =>
      rintro j hj
      simp only [Reading.toJson, bind_eq_ok_iff, closed_eq_ok_iff] at hj
      obtain ⟨values, hvalues, -, rfl⟩ := hj
      exact .array (fits_of_elementsToJson ih hvalues)
  | object _ ih =>
      rintro j hj
      simp only [Reading.toJson, bind_eq_ok_iff, closed_eq_ok_iff] at hj
      obtain ⟨values, hvalues, -, rfl⟩ := hj
      exact .object (fits_of_membersToJson ih hvalues)

/-! ### Open containers -/

/-- A value that is nested no deeper than `n` can be read inside the open containers, and
what has been read in them before leaves them within the limits. -/
inductive FramesFit : Nat → List Frame → Prop
  | none : FramesFit depthLimit []
  | array {n : Nat} {frames : List Frame} {before : List Reading} (outer : FramesFit (n + 1) frames)
      (read : ∀ r ∈ before, r.Fits n) : FramesFit n (.array before :: frames)
  | member {n : Nat} {frames : List Frame} {before : List (String × Reading)} {name : String}
      (outer : FramesFit (n + 1) frames) (read : ∀ e ∈ before, e.2.Fits n) :
      FramesFit n (.member before name :: frames)

inductive PlaceFits (frames : List Frame) : Place → Prop
  | value {n : Nat} (outer : FramesFit n frames) : PlaceFits frames .value
  | openedArray {n : Nat} (outer : FramesFit (n + 1) frames) : PlaceFits frames .openedArray
  | element {n : Nat} {before : List Reading} (outer : FramesFit (n + 1) frames)
      (read : ∀ r ∈ before, r.Fits n) : PlaceFits frames (.element before)
  | elementComma {n : Nat} {before : List Reading} (outer : FramesFit (n + 1) frames)
      (read : ∀ r ∈ before, r.Fits n) : PlaceFits frames (.elementComma before)
  | openedObject {n : Nat} (outer : FramesFit (n + 1) frames) : PlaceFits frames .openedObject
  | name {n : Nat} {before : List (String × Reading)} {name : String}
      (outer : FramesFit (n + 1) frames) (read : ∀ e ∈ before, e.2.Fits n) :
      PlaceFits frames (.name before name)
  | member {n : Nat} {before : List (String × Reading)} (outer : FramesFit (n + 1) frames)
      (read : ∀ e ∈ before, e.2.Fits n) : PlaceFits frames (.member before)
  | memberComma {n : Nat} {before : List (String × Reading)} (outer : FramesFit (n + 1) frames)
      (read : ∀ e ∈ before, e.2.Fits n) : PlaceFits frames (.memberComma before)
  | finished {root : Reading} (read : root.Fits depthLimit) : PlaceFits frames (.finished root)

/-- There is room for as many containers as may be open, less those that are. -/
theorem FramesFit.length_add {n : Nat} {frames : List Frame} (h : FramesFit n frames) :
    frames.length + n = depthLimit := by
  induction h with
  | none => rfl
  | array _ _ ih => rw [List.length_cons]; omega
  | member _ _ ih => rw [List.length_cons]; omega

theorem FramesFit.afterValue {n : Nat} {frames : List Frame} {r : Reading} (h : FramesFit n frames)
    (hr : r.Fits n) : PlaceFits (afterValue r frames).1 (afterValue r frames).2 := by
  cases h with
  | none => exact .finished hr
  | array outer read => exact .element outer (List.forall_mem_cons.2 ⟨hr, read⟩)
  | member outer read => exact .member outer (List.forall_mem_cons.2 ⟨hr, read⟩)

theorem FramesFit.openContainer {n : Nat} {frames : List Frame} (h : FramesFit n frames)
    {place : Place} (hplace : ∀ m, FramesFit (m + 1) frames → PlaceFits frames place)
    {reached : List Frame × Place} (hopen : openContainer frames place = .ok reached) :
    PlaceFits reached.1 reached.2 := by
  have hlength := h.length_add
  unfold Json.openContainer at hopen
  split at hopen
  · cases hopen
    obtain ⟨m, rfl⟩ : ∃ m, n = m + 1 := ⟨n - 1, by omega⟩
    exact hplace m h
  · cases hopen

theorem FramesFit.startValue {n : Nat} {frames : List Frame} (h : FramesFit n frames)
    {token : Token} (htoken : token.InRange) {reached : List Frame × Place}
    (hstart : startValue frames token = .ok reached) : PlaceFits reached.1 reached.2 := by
  cases token with
  | literal value =>
      cases value with
      | error e => cases hstart
      | ok value =>
          cases hstart
          exact h.afterValue (.scalar fun x hx => htoken x (by rw [hx]))
  | string content =>
      cases content with
      | error e => cases hstart
      | ok content =>
          cases hstart
          exact h.afterValue (.scalar nofun)
  | openArray => exact h.openContainer (fun _ => .openedArray) hstart
  | openObject => exact h.openContainer (fun _ => .openedObject) hstart
  | _ => cases hstart

theorem PlaceFits.next {frames : List Frame} {place : Place} (h : PlaceFits frames place)
    {token : Token} (htoken : token.InRange) {reached : List Frame × Place}
    (hnext : place.next frames token = .ok reached) : PlaceFits reached.1 reached.2 := by
  cases h with
  | value outer => exact outer.startValue htoken hnext
  | openedArray outer =>
      have hinner : FramesFit _ (.array [] :: frames) := .array outer nofun
      cases token with
      | closeArray =>
          cases hnext
          exact outer.afterValue (.array nofun)
      | _ => exact hinner.startValue htoken hnext
  | element outer read =>
      cases token with
      | comma =>
          cases hnext
          exact .elementComma outer read
      | closeArray =>
          cases hnext
          exact outer.afterValue (.array (by simpa using read))
      | _ => cases hnext
  | elementComma outer read =>
      cases token with
      | closeArray => cases hnext
      | _ => exact (FramesFit.array outer read).startValue htoken hnext
  | openedObject outer =>
      cases token with
      | closeObject =>
          cases hnext
          exact outer.afterValue (.object nofun)
      | string content =>
          cases content with
          | error e => cases hnext
          | ok content =>
              cases hnext
              exact .name outer nofun
      | _ => cases hnext
  | name outer read =>
      cases token with
      | colon =>
          cases hnext
          exact .value (.member outer read)
      | _ => cases hnext
  | member outer read =>
      cases token with
      | comma =>
          cases hnext
          exact .memberComma outer read
      | closeObject =>
          cases hnext
          exact outer.afterValue (.object (by simpa using read))
      | _ => cases hnext
  | memberComma outer read =>
      cases token with
      | string content =>
          cases content with
          | error e => cases hnext
          | ok content =>
              cases hnext
              exact .name outer read
      | _ => cases hnext
  | finished read => cases hnext

theorem fits_breakOff {n : Nat} {frames : List Frame} (h : FramesFit n frames) (e : SyntaxError)
    {r : Reading} (hr : r.Fits n) : (breakOff e r frames).Fits depthLimit := by
  induction h generalizing r with
  | none => exact hr
  | array _ read ih =>
      refine ih (.array fun r' hr' => ?_)
      rcases List.mem_cons.1 (List.mem_reverse.1 hr') with rfl | hr'
      · exact hr
      · exact read r' hr'
  | member _ read ih =>
      refine ih (.object fun e' he' => ?_)
      rcases List.mem_cons.1 (List.mem_reverse.1 he') with rfl | he'
      · exact hr
      · exact read e' he'

theorem PlaceFits.breakOff {frames : List Frame} {place : Place} (h : PlaceFits frames place)
    (e : SyntaxError) : (place.breakOff e frames).root.Fits depthLimit := by
  cases h with
  | value outer => exact fits_breakOff outer e (.broken e)
  | openedArray outer => exact fits_breakOff outer e (.array nofun)
  | element outer read => exact fits_breakOff outer e (.array (by simpa using read))
  | elementComma outer read => exact fits_breakOff outer e (.array (by simpa using read))
  | openedObject outer => exact fits_breakOff outer e (.object nofun)
  | name outer read =>
      refine fits_breakOff outer e (.object fun e' he' => ?_)
      rcases List.mem_cons.1 (List.mem_reverse.1 he') with rfl | he'
      · exact .broken e
      · exact read e' he'
  | member outer read => exact fits_breakOff outer e (.object (by simpa using read))
  | memberComma outer read => exact fits_breakOff outer e (.object (by simpa using read))
  | finished read => exact read

theorem fits_readFrom {frames : List Frame} {place : Place} (h : PlaceFits frames place)
    {ts : List Token} (hts : ∀ token ∈ ts, token.InRange) :
    (readFrom frames place ts).root.Fits depthLimit := by
  induction ts generalizing frames place with
  | nil =>
      cases place with
      | finished root => exact h.breakOff .trailingCharacters
      | _ => exact h.breakOff _
  | cons token ts ih =>
      obtain ⟨htoken, hts⟩ := List.forall_mem_cons.1 hts
      rw [readFrom]
      cases hnext : place.next frames token with
      | error e => exact h.breakOff e
      | ok reached => exact ih (h.next htoken hnext) hts

/-- A value that has been read is within the limits of the reader. -/
theorem fits_of_parse {text : String} {j : Json} (h : parse text = .ok j) :
    j.Fits Number.InRange depthLimit := by
  have hts : ∀ token ∈ tokenize text, token.InRange := Lexing.inRange_tokens _ trivial
  have hroot : (read text).root.Fits depthLimit := fits_readFrom (.value .none) hts
  simp only [parse, Document.toJson, bind_eq_ok_iff] at h
  obtain ⟨value, hvalue, hwhole⟩ := h
  split at hwhole
  · cases hwhole
  · cases hwhole
    exact hroot.toJson _ hvalue

end Json

end TypeResolution
