import Mathlib.Data.List.Basic
import Mathlib.Logic.Function.Basic
import TypeResolution.Proofs.Normalized

/-!
The grammar of type strings. A text is laid out as segments with runs of slashes
around them, and every text is so in exactly one way (`Layout.text_bijective`).
Parsing reads off the segments and looks at nothing but these, so what it accepts
is told by the layout (`parse_layout`): two to four segments, where of four the
second is `action`.
-/

namespace TypeResolution

namespace Text

/-! ### Segments of a text and of its parts -/

theorem pieces_append (sep : Char) (front back : List Char) :
    pieces sep (front ++ sep :: back) = pieces sep front ++ pieces sep back := by
  induction front with
  | nil => simp
  | cons c cs ih =>
      rw [List.cons_append, pieces, pieces, ih]
      by_cases hc : c = sep
      · simp [hc]
      · rw [if_neg hc, if_neg hc]
        cases hpieces : pieces sep cs with
        | nil => exact absurd hpieces (pieces_ne_nil sep cs)
        | cons piece rest => rfl

@[simp] theorem segments_empty : segments "" = [] := by decide

theorem segments_append_slash (front back : String) :
    segments (front ++ "/" ++ back) = segments front ++ segments back := by
  simp [segments, String.toList_append, pieces_append]

theorem segments_of_isSegment {s : String} (h : IsSegment s) : segments s = [s] := by
  have hne : s.toList ≠ [] := fun hnil => h.1 (String.toList_eq_nil_iff.1 hnil)
  simp [segments, pieces_of_notMem h.2, hne]

/-- Segments that are written with single slashes between them are read back. -/
theorem segments_intercalate {parts : List String} (h : ∀ s ∈ parts, IsSegment s) :
    segments ("/".intercalate parts) = parts := by
  induction parts with
  | nil => exact segments_empty
  | cons s rest ih =>
      obtain ⟨hs, hrest⟩ := List.forall_mem_cons.1 h
      cases rest with
      | nil => exact segments_of_isSegment hs
      | cons u rest =>
          rw [String.intercalate_cons_cons, segments_append_slash, segments_of_isSegment hs,
            ih hrest]
          rfl

def slashes (n : Nat) : String := String.ofList (List.replicate n '/')

@[simp] theorem slashes_zero : slashes 0 = "" := rfl

theorem slashes_succ (n : Nat) : slashes (n + 1) = "/" ++ slashes n := by
  rw [← String.toList_inj]
  simp [slashes, String.toList_append, List.replicate_succ]

theorem segments_slashes_append (n : Nat) (text : String) :
    segments (slashes n ++ text) = segments text := by
  induction n with
  | zero => simp
  | succ n ih =>
      have h := segments_append_slash "" (slashes n ++ text)
      rw [slashes_succ, String.append_assoc, ← ih]
      simpa using h

theorem segments_append_slashes (n : Nat) (text : String) :
    segments (text ++ slashes n) = segments text := by
  cases n with
  | zero => simp
  | succ n =>
      have h := segments_slashes_append n ""
      rw [String.append_empty] at h
      rw [slashes_succ, ← String.append_assoc, segments_append_slash, h, segments_empty,
        List.append_nil]

end Text

/-! ### Layouts -/

open Text

/-- The text of so many slashes and the given segments, each with as many slashes after
it as stated. -/
def spread : Nat → List (String × Nat) → String
  | lead, [] => slashes lead
  | lead, (s, after) :: parts => slashes lead ++ (s ++ spread after parts)

def Spaced : List (String × Nat) → Prop
  | [] => True
  | (s, after) :: parts => IsSegment s ∧ (parts ≠ [] → 0 < after) ∧ Spaced parts

/-- How a text is laid out: the number of slashes at its beginning, and the segments,
each with the number of slashes after it. -/
@[ext]
structure Layout where
  lead : Nat
  parts : List (String × Nat)
  spaced : Spaced parts

namespace Layout

def text (l : Layout) : String := spread l.lead l.parts

def segments (l : Layout) : List String := l.parts.map Prod.fst

end Layout

theorem segments_spread (lead : Nat) {parts : List (String × Nat)} (h : Spaced parts) :
    segments (spread lead parts) = parts.map Prod.fst := by
  induction parts generalizing lead with
  | nil => simpa [spread] using segments_slashes_append lead ""
  | cons part parts ih =>
      obtain ⟨s, after⟩ := part
      obtain ⟨hs, hafter, hparts⟩ := h
      have hrest := ih after hparts
      rw [spread, segments_slashes_append]
      cases parts with
      | nil => rw [spread, segments_append_slashes, segments_of_isSegment hs]; rfl
      | cons next parts =>
          obtain ⟨u, after'⟩ := next
          obtain ⟨n, rfl⟩ := Nat.exists_eq_succ_of_ne_zero (Nat.ne_of_gt (hafter (by simp)))
          rw [spread, segments_slashes_append] at hrest
          rw [spread, slashes_succ, String.append_assoc, ← String.append_assoc,
            segments_append_slash, segments_slashes_append, segments_of_isSegment hs, hrest]
          rfl

theorem Layout.segments_text (l : Layout) : Text.segments l.text = l.segments :=
  segments_spread l.lead l.spaced

/-- A run of slashes is told apart from what follows it. -/
theorem slashes_append_inj {n n' : Nat} {rest rest' : String}
    (h : rest.toList.head? ≠ some '/') (h' : rest'.toList.head? ≠ some '/')
    (heq : slashes n ++ rest = slashes n' ++ rest') : n = n' ∧ rest = rest' := by
  induction n generalizing n' with
  | zero =>
      cases n' with
      | zero => simpa using heq
      | succ n' =>
          have hhead := congrArg (fun text : String => text.toList.head?) heq
          simp [slashes_succ, String.toList_append] at hhead
          exact absurd hhead h
  | succ n ih =>
      cases n' with
      | zero =>
          have hhead := congrArg (fun text : String => text.toList.head?) heq
          simp [slashes_succ, String.toList_append] at hhead
          exact absurd hhead.symm h'
      | succ n' =>
          rw [slashes_succ, slashes_succ, String.append_assoc, String.append_assoc] at heq
          have htail : slashes n ++ rest = slashes n' ++ rest' := by
            rw [← String.toList_inj] at heq ⊢
            simpa [String.toList_append] using heq
          obtain ⟨rfl, hrest⟩ := ih htail
          exact ⟨rfl, hrest⟩

theorem head?_segment_append {s : String} (h : IsSegment s) (rest : String) :
    (s ++ rest).toList.head? ≠ some '/' := by
  have hne : s.toList ≠ [] := fun hnil => h.1 (String.toList_eq_nil_iff.1 hnil)
  obtain ⟨c, cs, hcs⟩ := List.exists_cons_of_ne_nil hne
  have hc : '/' ∉ s.toList := h.2
  rw [hcs] at hc
  rw [String.toList_append, hcs]
  simp at hc ⊢
  exact fun heq => hc.1 heq.symm

/-- Two layouts with the same text are the same: they have the same segments, so only
the runs of slashes between these are to be compared. -/
theorem spread_inj {lead lead' : Nat} {parts parts' : List (String × Nat)} (h : Spaced parts)
    (h' : Spaced parts') (heq : spread lead parts = spread lead' parts') :
    lead = lead' ∧ parts = parts' := by
  have hsegments : parts.map Prod.fst = parts'.map Prod.fst := by
    rw [← segments_spread lead h, ← segments_spread lead' h', heq]
  induction parts generalizing lead lead' parts' with
  | nil =>
      obtain rfl : parts' = [] := List.map_eq_nil_iff.1 hsegments.symm
      have hslashes : slashes lead ++ "" = slashes lead' ++ "" := by simpa [spread] using heq
      exact ⟨(slashes_append_inj (by simp) (by simp) hslashes).1, rfl⟩
  | cons part parts ih =>
      cases parts' with
      | nil => cases hsegments
      | cons part' parts' =>
          obtain ⟨s, after⟩ := part
          obtain ⟨s', after'⟩ := part'
          obtain ⟨hs, -, hparts⟩ := h
          obtain ⟨hs', -, hparts'⟩ := h'
          obtain ⟨rfl, hothers⟩ := List.cons.inj hsegments
          obtain ⟨rfl, hrest⟩ := slashes_append_inj (head?_segment_append hs _)
            (head?_segment_append hs' _) heq
          have hspread : spread after parts = spread after' parts' := by
            rw [← String.toList_inj] at hrest ⊢
            simpa [String.toList_append] using hrest
          obtain ⟨rfl, rfl⟩ := ih hparts hparts' hspread hothers
          exact ⟨rfl, rfl⟩

theorem exists_spread (cs : List Char) :
    ∃ lead parts, Spaced parts ∧ spread lead parts = String.ofList cs := by
  induction cs with
  | nil => exact ⟨0, [], trivial, rfl⟩
  | cons c cs ih =>
      obtain ⟨lead, parts, hparts, htext⟩ := ih
      have hcons : String.ofList (c :: cs) = String.ofList [c] ++ spread lead parts := by
        rw [htext, ← String.ofList_append]
        rfl
      rw [hcons]
      by_cases hc : c = '/'
      · refine ⟨lead + 1, parts, hparts, ?_⟩
        subst hc
        cases parts with
        | nil => rw [spread, spread, slashes_succ]
        | cons part parts => rw [spread, spread, slashes_succ, String.append_assoc]
      · have hsegment : IsSegment (String.ofList [c]) := by
          simp [IsSegment, Ne.symm hc]
        cases lead with
        | succ n => exact ⟨0, (String.ofList [c], n + 1) :: parts, ⟨hsegment, by simp, hparts⟩, by
            simp [spread]⟩
        | zero =>
            cases parts with
            | nil => exact ⟨0, [(String.ofList [c], 0)], ⟨hsegment, by simp, trivial⟩, by
                simp [spread]⟩
            | cons part parts =>
                -- the character goes in front of the segment that the rest begins with
                obtain ⟨s, after⟩ := part
                obtain ⟨hs, hafter, hrest⟩ := hparts
                have hs' : IsSegment (String.ofList [c] ++ s) := by
                  simp [IsSegment, String.toList_append, Ne.symm hc, hs.2]
                refine ⟨0, (String.ofList [c] ++ s, after) :: parts, ⟨hs', hafter, hrest⟩, ?_⟩
                simp [spread, String.append_assoc]

/-- Every text is laid out in exactly one way. -/
theorem Layout.text_bijective : Function.Bijective Layout.text := by
  constructor
  · intro l l' heq
    obtain ⟨hlead, hparts⟩ := spread_inj l.spaced l'.spaced heq
    exact Layout.ext hlead hparts
  · intro text
    obtain ⟨lead, parts, hspaced, htext⟩ := exists_spread text.toList
    refine ⟨⟨lead, parts, hspaced⟩, ?_⟩
    rw [Layout.text, htext, String.ofList_toList]

/-! ### Reading a layout -/

namespace TypeString

def segments (t : TypeString) : List String := t.package :: t.middle ++ [t.className]

/-- There are at most two middle segments, and the first of two is `action`. -/
def Shaped (t : TypeString) : Prop :=
  t.middle.length ≤ 2 ∧ (t.middle.length = 2 → t.middle.head? = some "action")

/-- Parsing looks at nothing but the segments. -/
theorem parse_eq_ok_iff {text : String} {t : TypeString} :
    parse text = .ok t ↔ t.Shaped ∧ Text.segments text = t.segments := by
  constructor
  · intro h
    refine ⟨?_, segments_of_parse h⟩
    unfold parse at h
    split at h
    · cases h
      simp [Shaped]
    · cases h
      simp [Shaped]
    · split at h
      · rename_i hroot
        cases h
        simp [Shaped, hroot]
      · cases h
    · cases h
  · rintro ⟨⟨hlength, haction⟩, hsegments⟩
    obtain ⟨package, middle, className⟩ := t
    rw [parse, hsegments]
    cases middle with
    | nil => rfl
    | cons root groups =>
        cases groups with
        | nil => rfl
        | cons group rest =>
            have hrest : rest = [] := by simpa using hlength
            subst hrest
            have hroot : root = "action" := by simpa using haction
            simp [segments, hroot]

theorem eq_invalidTypeString_of_parse {text : String} {e : ResolveError}
    (h : parse text = .error e) : e = .invalidTypeString text := by
  unfold parse at h
  split at h
  · cases h
  · cases h
  · split at h
    · cases h
    · cases h
      rfl
  · cases h
    rfl

theorem toOption_parse_congr {text text' : String} (h : Text.segments text = Text.segments text') :
    (parse text).toOption = (parse text').toOption := by
  have hok (t : TypeString) : parse text = .ok t ↔ parse text' = .ok t := by
    rw [parse_eq_ok_iff, parse_eq_ok_iff, h]
  cases htext : parse text with
  | ok t => rw [(hok t).1 htext]
  | error e =>
      cases htext' : parse text' with
      | ok t => rw [(hok t).2 htext'] at htext; cases htext
      | error e' => rfl

end TypeString

/-- A text is a type string if its one layout has two to four segments, of which the
second is `action` if there are four. All other texts are refused and given back with the
error. So segments of a type string that are written with single slashes are read back,
and longer runs of slashes, also at either end, make no difference. -/
theorem parse_layout (text : String) :
    (∀ t, TypeString.parse text = .ok t ↔
        t.Shaped ∧ ∃ l : Layout, l.text = text ∧ l.segments = t.segments) ∧
      (∃! l : Layout, l.text = text) ∧
      ((∀ t, TypeString.parse text ≠ .ok t) →
        TypeString.parse text = .error (.invalidTypeString text)) ∧
      (∀ t : TypeString, t.Shaped → (∀ s ∈ t.segments, IsSegment s) →
        TypeString.parse ("/".intercalate t.segments) = .ok t) ∧
      (∀ before after n, text = before ++ "/" ++ after →
        (TypeString.parse (before ++ "/" ++ slashes n ++ after)).toOption =
          (TypeString.parse text).toOption) ∧
      ∀ m n, (TypeString.parse (slashes m ++ text ++ slashes n)).toOption =
        (TypeString.parse text).toOption := by
  refine ⟨fun t => ?_, Layout.text_bijective.existsUnique text, fun h => ?_, fun t ht hs => ?_, ?_, ?_⟩
  · rw [TypeString.parse_eq_ok_iff]
    refine and_congr_right fun _ => ?_
    constructor
    · intro hsegments
      obtain ⟨l, hl⟩ := Layout.text_bijective.surjective text
      exact ⟨l, hl, by rw [← l.segments_text, hl, hsegments]⟩
    · rintro ⟨l, rfl, hsegments⟩
      rw [l.segments_text, hsegments]
  · cases hparse : TypeString.parse text with
    | ok t => exact absurd hparse (h t)
    | error e => rw [TypeString.eq_invalidTypeString_of_parse hparse]
  · exact TypeString.parse_eq_ok_iff.2 ⟨ht, segments_intercalate hs⟩
  · rintro before after n rfl
    refine TypeString.toOption_parse_congr ?_
    rw [String.append_assoc, segments_append_slash, segments_slashes_append, segments_append_slash]
  · intro m n
    refine TypeString.toOption_parse_congr ?_
    rw [segments_append_slashes, segments_slashes_append]

/-- Slashes at either end and runs of them do not matter. -/
example : TypeString.parse "//p/action///_x/C/" = .ok ⟨"p", ["action", "_x"], "C"⟩ := rfl

end TypeResolution
