import TypeResolution.Json.Reader
import TypeResolution.Proofs.Json.Printed

/-!
Reading the tokens of a value gives the value back. A value can be read at three sorts of
places (`Json.Awaits`), and from each of them the tokens of a value lead to the place after
it, as long as there is room for its containers inside those that are open
(`Json.Fits.readsBack`). So a text with the tokens of a value holds the value
(`Json.Fits.parse_of_tokenize`).
-/

namespace TypeResolution.Json

namespace Reading

/-! ### Values that have been read to their end -/

mutual
def ofJson : Json → Reading
  | .scalar value => .scalar value
  | .array elements => .array (elementsOfJson elements) none
  | .object members => .object (membersOfJson members) none

def elementsOfJson : List Json → List Reading
  | [] => []
  | element :: elements => ofJson element :: elementsOfJson elements

def membersOfJson : List (String × Json) → List (String × Reading)
  | [] => []
  | (name, value) :: members => (name, ofJson value) :: membersOfJson members
end

mutual
theorem toJson_ofJson : ∀ j, toJson (ofJson j) = .ok j
  | .scalar value => rfl
  | .array elements => by
      rw [ofJson, toJson, elementsToJson_elementsOfJson elements]
      rfl
  | .object members => by
      rw [ofJson, toJson, membersToJson_membersOfJson members]
      rfl

theorem elementsToJson_elementsOfJson : ∀ elements,
    elementsToJson (elementsOfJson elements) = .ok elements
  | [] => rfl
  | element :: elements => by
      rw [elementsOfJson, elementsToJson, toJson_ofJson element,
        elementsToJson_elementsOfJson elements]
      rfl

theorem membersToJson_membersOfJson : ∀ members,
    membersToJson (membersOfJson members) = .ok members
  | [] => rfl
  | (name, value) :: members => by
      rw [membersOfJson, membersToJson, toJson_ofJson value, membersToJson_membersOfJson members]
      rfl
end

end Reading

open Reading

/-! ### Places where a value may stand -/

/-- A value may come next, and will be read inside the containers `inner`. -/
inductive Awaits (frames : List Frame) : Place → List Frame → Prop
  | value : Awaits frames .value frames
  | first : Awaits frames .openedArray (.array [] :: frames)
  | next (before : List Reading) : Awaits frames (.elementComma before) (.array before :: frames)

theorem Awaits.next_eq {frames inner : List Frame} {place : Place}
    (h : Awaits frames place inner) {token : Token} (hclose : token ≠ .closeArray) :
    place.next frames token = startValue inner token := by
  cases h with
  | value => rfl
  | first => cases token <;> first | exact absurd rfl hclose | rfl
  | next before => cases token <;> first | exact absurd rfl hclose | rfl

def readOn (reached : List Frame × Place) (ts : List Token) : Document :=
  readFrom reached.1 reached.2 ts

theorem readFrom_of_next {frames : List Frame} {place : Place} {token : Token}
    {reached : List Frame × Place} (h : place.next frames token = .ok reached) (ts : List Token) :
    readFrom frames place (token :: ts) = readOn reached ts := by
  rw [readFrom, h]
  rfl

theorem Awaits.readFrom {frames inner : List Frame} {place : Place} (h : Awaits frames place inner)
    {token : Token} (hclose : token ≠ .closeArray) {reached : List Frame × Place}
    (hstart : startValue inner token = .ok reached) (ts : List Token) :
    readFrom frames place (token :: ts) = readOn reached ts := by
  rw [← h.next_eq hclose] at hstart
  exact readFrom_of_next hstart ts

/-- From each place where the value may stand its tokens lead to the place after it, if there
is room for as many containers. -/
def ReadsBack (room : Nat) (j : Json) : Prop :=
  ∀ frames place inner, Awaits frames place inner → inner.length + room ≤ depthLimit →
    ∀ ts, readFrom frames place (j.tokens ++ ts) = readOn (afterValue (ofJson j) inner) ts

/-! ### Containers -/

theorem startValue_openArray {frames : List Frame} (h : frames.length < depthLimit) :
    startValue frames .openArray = .ok (frames, .openedArray) := if_pos h

theorem startValue_openObject {frames : List Frame} (h : frames.length < depthLimit) :
    startValue frames .openObject = .ok (frames, .openedObject) := if_pos h

variable {room : Nat} {frames : List Frame} {ts : List Token}

theorem readFrom_elementTokens {elements : List Json} (h : ∀ e ∈ elements, ReadsBack room e)
    (hroom : frames.length + (room + 1) ≤ depthLimit) (before : List Reading) :
    readFrom frames (.element before) (elementTokens elements ++ .closeArray :: ts) =
      readOn (afterValue (.array (before.reverse ++ elementsOfJson elements) none) frames) ts := by
  induction elements generalizing before with
  | nil =>
      rw [elementsOfJson, List.append_nil]
      exact readFrom_of_next rfl ts
  | cons element elements ih =>
      obtain ⟨helement, helements⟩ := List.forall_mem_cons.1 h
      have hread := helement frames _ _ (.next before) (by simp only [List.length_cons]; omega)
        (elementTokens elements ++ .closeArray :: ts)
      simp only [elementTokens, List.cons_append, List.append_assoc]
      rw [readFrom_of_next rfl]
      change readFrom frames (.elementComma before) _ = _
      rw [hread]
      change readFrom frames (.element (ofJson element :: before)) _ = _
      rw [ih helements, elementsOfJson, List.reverse_cons, List.append_assoc]
      rfl

/-- A member from the colon on, where its name has been read. -/
theorem readFrom_member {value : Json} (h : ReadsBack room value)
    (hroom : frames.length + (room + 1) ≤ depthLimit) (before : List (String × Reading))
    (name : String) :
    readFrom frames (.name before name) (.colon :: (value.tokens ++ ts)) =
      readFrom frames (.member ((name, ofJson value) :: before)) ts := by
  rw [readFrom_of_next rfl]
  exact h _ _ _ .value (by simp only [List.length_cons]; omega) ts

theorem readFrom_memberTokens {members : List (String × Json)}
    (h : ∀ e ∈ members, ReadsBack room e.2) (hroom : frames.length + (room + 1) ≤ depthLimit)
    (before : List (String × Reading)) :
    readFrom frames (.member before) (memberTokens members ++ .closeObject :: ts) =
      readOn (afterValue (.object (before.reverse ++ membersOfJson members) none) frames) ts := by
  induction members generalizing before with
  | nil =>
      rw [membersOfJson, List.append_nil]
      exact readFrom_of_next rfl ts
  | cons member members ih =>
      obtain ⟨name, value⟩ := member
      obtain ⟨hvalue, hmembers⟩ := List.forall_mem_cons.1 h
      simp only [memberTokens, List.cons_append, List.append_assoc]
      rw [readFrom_of_next rfl]
      change readFrom frames (.memberComma before) _ = _
      rw [readFrom_of_next rfl]
      change readFrom frames (.name before name) _ = _
      rw [readFrom_member hvalue hroom, ih hmembers, membersOfJson, List.reverse_cons,
        List.append_assoc]
      rfl

theorem startValue_scalarToken (value : Scalar) (frames : List Frame) :
    startValue frames (scalarToken value) = .ok (afterValue (.scalar value) frames) := by
  cases value <;> rfl

theorem scalarToken_ne_closeArray (value : Scalar) : scalarToken value ≠ .closeArray := by
  cases value <;> nofun

theorem Fits.readsBack {sort : Number → Prop} {n : Nat} {j : Json} (h : j.Fits sort n) :
    ReadsBack n j := by
  induction h with
  | scalar _ =>
      intro frames place inner hawaits hroom ts
      exact hawaits.readFrom (scalarToken_ne_closeArray _) (startValue_scalarToken _ inner) ts
  | @array n elements _ ih =>
      intro frames place inner hawaits hroom ts
      have hopen := startValue_openArray (show inner.length < depthLimit by omega)
      cases elements with
      | nil =>
          rw [tokens, List.cons_append, hawaits.readFrom (by simp) hopen]
          exact readFrom_of_next rfl ts
      | cons element elements =>
          obtain ⟨helement, helements⟩ := List.forall_mem_cons.1 ih
          have hread := helement inner _ _ .first (by simp only [List.length_cons]; omega)
            (elementTokens elements ++ .closeArray :: ts)
          simp only [tokens, List.cons_append, List.append_assoc, List.nil_append]
          rw [hawaits.readFrom (by simp) hopen]
          change readFrom inner .openedArray _ = _
          rw [hread]
          exact readFrom_elementTokens helements hroom [ofJson element]
  | @object n members _ ih =>
      intro frames place inner hawaits hroom ts
      have hopen := startValue_openObject (show inner.length < depthLimit by omega)
      cases members with
      | nil =>
          rw [tokens, List.cons_append, hawaits.readFrom (by simp) hopen]
          exact readFrom_of_next rfl ts
      | cons member members =>
          obtain ⟨name, value⟩ := member
          obtain ⟨hvalue, hmembers⟩ := List.forall_mem_cons.1 ih
          simp only [tokens, List.cons_append, List.append_assoc, List.nil_append]
          rw [hawaits.readFrom (by simp) hopen]
          change readFrom inner .openedObject _ = _
          rw [readFrom_of_next rfl]
          change readFrom inner (.name [] name) _ = _
          rw [readFrom_member hvalue hroom]
          exact readFrom_memberTokens hmembers hroom [(name, ofJson value)]

/-- A text that has the tokens of a value holds the value, if it is not nested too deep. -/
theorem Fits.parse_of_tokenize {sort : Number → Prop} {j : Json} (h : j.Fits sort depthLimit)
    {text : String} (htokens : tokenize text = j.tokens) : parse text = .ok j := by
  have hread := h.readsBack [] _ _ .value (by simp) []
  rw [List.append_nil] at hread
  rw [parse, read, htokens, hread]
  change Document.toJson ⟨ofJson j, false⟩ = _
  rw [Document.toJson, toJson_ofJson]
  rfl

end TypeResolution.Json
