import Mathlib.Data.List.FinRange
import Mathlib.Data.List.Sort
import TypeResolution.Proofs.Precedence
import TypeResolution.Proofs.Response

/-!
Requests that do not concern one another. Over a registry the caches fall into
independent parts, one for each kind and normalized form: a request is answered
from its own part and writes to no other, although all spellings of a kind share
one table and the text of one request may be the normalized form of another. So
requests may be left out or change places as long as those with the same kind and
normalized form keep their order (`rearranged_requests`).

The parts are cut out by a choice of requests that treats all spellings of a type
alike (`ByKey`). A request that is chosen is answered alike by caches that agree
on the choice (`Registry.respond_agree`), and one that is not chosen leaves the
chosen entries alone (`Registry.respond_other`).
-/

namespace TypeResolution

variable {p : Request → Bool}

/-- The choice depends on nothing but the kind and the normalized form where there
is one. -/
def ByKey (p : Request → Bool) : Prop :=
  ∀ ⦃q q' : Request⦄ ⦃key⦄, q.key? = some key → q'.key? = some key → p q = p q'

theorem byKey_kind (kind : Kind) : ByKey fun q => decide (q.kind = kind) := by
  intro q q' key h h'
  have hkind {q : Request} (h : q.key? = some key) : q.kind = key.1 := by
    obtain ⟨t, -, rfl⟩ := Request.key?_eq_some_iff.1 h
    rfl
  simp only [hkind h, hkind h']

theorem byKey_normalized (normalized : String) :
    ByKey fun q => decide (q.key?.map Prod.snd = some normalized) := by
  intro q q' key h h'
  simp only [h, h']

theorem byKey_key (key : Kind × String) : ByKey fun q => decide (q.key? = some key) := by
  intro q q' key' h h'
  simp only [h, h']

theorem ByKey.normalized (hp : ByKey p) {q : Request} {t : TypeString}
    (hparse : TypeString.parse q.text = .ok t) : p ⟨q.kind, t.normalized⟩ = p q :=
  hp (Request.key?_normalized hparse q.kind) (Request.key?_of_parse hparse)

/-! ### Caches that agree on a choice -/

def Caches.AgreeOn (p : Request → Bool) (c d : Caches) : Prop :=
  ∀ ⦃q : Request⦄, p q = true → c.get? q.kind q.text = d.get? q.kind q.text

namespace Caches.AgreeOn

variable {c d : Caches}

theorem refl (p : Request → Bool) (c : Caches) : AgreeOn p c c := fun _ _ => rfl

theorem insert (h : AgreeOn p c d) (kind : Kind) (key : String) (handle : TypeHandle) :
    AgreeOn p (c.insert kind key handle) (d.insert kind key handle) := by
  intro q hq
  rw [get?_insert, get?_insert, h hq]

theorem store (h : AgreeOn p c d) (q : Request) (normalized : String)
    (result : Except ResolveError TypeHandle) :
    AgreeOn p (c.store q normalized result) (d.store q normalized result) := by
  cases result with
  | error e => exact h
  | ok handle => exact (h.insert q.kind q.text handle).insert q.kind normalized handle

/-- What is written for a request that is not chosen does not show. -/
theorem insert_left (h : AgreeOn p c d) {kind : Kind} {key : String} (hkey : p ⟨kind, key⟩ = false)
    (handle : TypeHandle) : AgreeOn p (c.insert kind key handle) d := by
  intro q hq
  rw [get?_insert, if_neg, h hq]
  rintro ⟨rfl, rfl⟩
  rw [hq] at hkey
  cases hkey

end Caches.AgreeOn

namespace Registry

variable {r : Registry} {q : Request} {c d : Caches}

theorem respond_agree (hp : ByKey p) (hq : p q = true) (h : c.AgreeOn p d) :
    (r.respond q c).1 = (r.respond q d).1 ∧ (r.respond q c).2.AgreeOn p (r.respond q d).2 := by
  have htext := h hq
  cases hit : c.get? q.kind q.text with
  | some handle =>
      rw [respond_of_cached hit, respond_of_cached (htext ▸ hit)]
      exact ⟨rfl, h⟩
  | none =>
      have hit' : d.get? q.kind q.text = none := htext ▸ hit
      cases hread : TypeString.read q.kind q.text with
      | error e =>
          rw [respond_of_read_error hit hread, respond_of_read_error hit' hread]
          exact ⟨rfl, h⟩
      | ok found =>
          obtain ⟨t, subpath⟩ := found
          have hnormalized : c.get? q.kind t.normalized = d.get? q.kind t.normalized :=
            h ((hp.normalized (TypeString.read_eq_ok_iff.1 hread).1).trans hq)
          cases hknown : c.get? q.kind t.normalized with
          | some handle =>
              rw [respond_of_known hit hread hknown,
                respond_of_known hit' hread (hnormalized ▸ hknown)]
              exact ⟨rfl, h.insert q.kind q.text handle⟩
          | none =>
              rw [respond_of_unknown hit hread hknown,
                respond_of_unknown hit' hread (hnormalized ▸ hknown)]
              exact ⟨rfl, h.store q t.normalized (r.resolveNew q)⟩

theorem respond_other (hp : ByKey p) (hq : p q = false) (c : Caches) :
    (r.respond q c).2.AgreeOn p c := by
  have hrefl := Caches.AgreeOn.refl p c
  cases hit : c.get? q.kind q.text with
  | some handle =>
      rw [respond_of_cached hit]
      exact hrefl
  | none =>
      cases hread : TypeString.read q.kind q.text with
      | error e =>
          rw [respond_of_read_error hit hread]
          exact hrefl
      | ok found =>
          obtain ⟨t, subpath⟩ := found
          have hnormalized := (hp.normalized (TypeString.read_eq_ok_iff.1 hread).1).trans hq
          cases hknown : c.get? q.kind t.normalized with
          | some handle =>
              rw [respond_of_known hit hread hknown]
              exact hrefl.insert_left hq handle
          | none =>
              rw [respond_of_unknown hit hread hknown]
              cases r.resolveNew q with
              | error e => exact hrefl
              | ok handle => exact (hrefl.insert_left hq handle).insert_left hnormalized handle

end Registry

/-! ### Runs of requests -/

namespace Resolver

variable {σ : Type} {provider : Provider σ} {r : Registry} {q : Request} {w v : World σ}

def answers (provider : Provider σ) :
    List Request → World σ → List (Request × Except ResolveError TypeHandle)
  | [], _ => []
  | q :: qs, w => (q, (serve provider q w).1) :: answers provider qs (serve provider q w).2

theorem getElem?_answers (provider : Provider σ) {qs : List Request} {i : Nat} (h : i < qs.length)
    (w : World σ) :
    (answers provider qs w)[i]? =
      some (qs[i], (serve provider qs[i] (after provider (qs.take i) w)).1) := by
  induction qs generalizing i w with
  | nil => cases h
  | cons q qs ih =>
      cases i with
      | zero => rfl
      | succ i => exact ih (Nat.lt_of_succ_lt_succ h) _

/-- Requests may be left out, if all others of their kind and normalized form are
left out with them. -/
theorem answers_filter (hserves : provider.Serves r) (hquiet : provider.Quiet) (hp : ByKey p)
    (qs : List Request) (h : w.caches.AgreeOn p v.caches) :
    answers provider (qs.filter p) w = (answers provider qs v).filter (fun a => p a.1) ∧
      (after provider (qs.filter p) w).caches.AgreeOn p (after provider qs v).caches := by
  induction qs generalizing w v with
  | nil => exact ⟨rfl, h⟩
  | cons q qs ih =>
      obtain ⟨hv, hv'⟩ := serve_of_serves hserves hquiet q v
      cases hq : p q with
      | true =>
          obtain ⟨hw, hw'⟩ := serve_of_serves hserves hquiet q w
          obtain ⟨hresult, hagree⟩ := Registry.respond_agree (r := r) hp hq h
          rw [← hw', ← hv'] at hagree
          obtain ⟨hanswers, hafter⟩ := ih hagree
          simp only [answers, List.filter_cons, hq, if_true, hanswers, hw, hv, hresult, true_and]
          exact hafter
      | false =>
          have hother := Registry.respond_other (r := r) hp hq v.caches
          rw [← hv'] at hother
          simp only [answers, List.filter_cons, hq, Bool.false_eq_true, if_false]
          exact ih fun q' hchosen => (h hchosen).trans (hother hchosen).symm

/-- The requests of one kind are answered as if no others were made. -/
theorem answers_of_kind (r : Registry) (qs : List Request) (kind : Kind) :
    answers r.provider (qs.filter fun q => q.kind = kind) (.new ()) =
      (answers r.provider qs (.new ())).filter fun a => a.1.kind = kind :=
  (answers_filter r.serves_provider r.quiet_provider (byKey_kind kind) qs (.refl _ _)).1

theorem answers_of_normalized (r : Registry) (qs : List Request) (normalized : String) :
    answers r.provider (qs.filter fun q => q.key?.map Prod.snd = some normalized) (.new ()) =
      (answers r.provider qs (.new ())).filter fun a => a.1.key?.map Prod.snd = some normalized :=
  (answers_filter r.serves_provider r.quiet_provider (byKey_normalized normalized) qs
    (.refl _ _)).1

/-- What is answered to a request depends on those before it that have its kind and
normalized form. -/
theorem serve_after_filter (hserves : provider.Serves r) (hquiet : provider.Quiet) (hp : ByKey p)
    (hq : p q = true) (qs : List Request) (w : World σ) :
    (serve provider q (after provider (qs.filter p) w)).1 =
      (serve provider q (after provider qs w)).1 := by
  obtain ⟨-, hagree⟩ := answers_filter hserves hquiet hp qs (.refl p w.caches)
  rw [(serve_of_serves hserves hquiet q _).1, (serve_of_serves hserves hquiet q _).1]
  exact (Registry.respond_agree hp hq hagree).1

theorem cached?_after_of_key?_eq_none (r : Registry) (qs : List Request) (hkey : q.key? = none) :
    (after r.provider qs (.new ())).cached? q.kind q.text = none := by
  cases hit : (after r.provider qs (.new ())).cached? q.kind q.text with
  | none => rfl
  | some handle =>
      obtain ⟨t, subpath, hread, -⟩ := ((MemoTable.refines_new ()).after r.source qs).spelled hit
      rw [Request.key?_of_read hread] at hkey
      cases hkey

theorem serve_after_of_key?_eq_none (r : Registry) (qs : List Request) (hkey : q.key? = none) :
    (serve r.provider q (after r.provider qs (.new ()))).1 = r.resolveNew q := by
  have miss := cached?_after_of_key?_eq_none r qs hkey
  cases hread : TypeString.read q.kind q.text with
  | error e => rw [serve, resolve_of_miss miss, hread, Registry.resolveNew_of_read_error hread]
  | ok found =>
      rw [Request.key?_of_read hread] at hkey
      cases hkey

end Resolver

/-! ### Rearrangements -/

/-- The same requests in another order. Those with the same kind and normalized form
keep their order; those that cannot be parsed may be anywhere. -/
structure Rearrangement (qs qs' : List Request) where
  place : Fin qs.length ≃ Fin qs'.length
  same : ∀ i, qs'.get (place i) = qs.get i
  ordered : ∀ {i j key}, i < j → (qs.get i).key? = some key → (qs.get j).key? = some key →
    place i < place j

def Rearrangement.swap {q q' : Request} (h : q.key? = none ∨ q.key? ≠ q'.key?) :
    Rearrangement [q, q'] [q', q] where
  place := Equiv.swap 0 1
  same := Fin.forall_fin_two.2 ⟨rfl, rfl⟩
  ordered := by
    intro (i : Fin 2) (j : Fin 2) key (hlt : i < j) hi hj
    obtain ⟨rfl, rfl⟩ : i = 0 ∧ j = 1 := by omega
    rcases h with hnone | hne
    · exact absurd (hnone.symm.trans hi) nofun
    · exact absurd (hi.trans hj.symm) hne

example : Rearrangement [⟨.message, "p/C"⟩, ⟨.service, "p/foo/C"⟩]
    [⟨.service, "p/foo/C"⟩, ⟨.message, "p/C"⟩] :=
  .swap (.inr (by decide +kernel))

theorem mem_take_finRange {k n : Nat} {i : Fin k} : i ∈ (List.finRange k).take n ↔ i.val < n := by
  rw [List.mem_take_iff_getElem]
  constructor
  · rintro ⟨j, hj, rfl⟩
    simp at hj ⊢
    exact hj.1
  · intro hi
    exact ⟨i, by simp [hi], by simp⟩

theorem pairwise_filter_take_finRange (k n : Nat) (f : Fin k → Bool) :
    (((List.finRange k).take n).filter f).Pairwise (· < ·) :=
  ((List.pairwise_lt_finRange k).sublist (List.take_sublist _ _)).sublist List.filter_sublist

theorem filter_take_eq_map (p : Request → Bool) (qs : List Request) (n : Nat) :
    (qs.take n).filter p =
      (((List.finRange qs.length).take n).filter fun i => p (qs.get i)).map qs.get := by
  conv_lhs => rw [← List.map_get_finRange qs]
  rw [← List.map_take, List.filter_map]
  rfl

namespace Rearrangement

variable {qs qs' : List Request}

/-- Requests with one key keep their order, so among two initial parts of the lists
that hold the same of them they are found in the same order. -/
theorem filter_take_eq (e : Rearrangement qs qs') {key : Kind × String} {n n' : Nat}
    (hplaces : ∀ i, (qs.get i).key? = some key → (i.val < n ↔ (e.place i).val < n')) :
    (qs'.take n').filter (fun q => decide (q.key? = some key)) =
      (qs.take n).filter fun q => decide (q.key? = some key) := by
  rw [filter_take_eq_map, filter_take_eq_map]
  set chosen := ((List.finRange qs.length).take n).filter fun i =>
    decide ((qs.get i).key? = some key) with hchosen
  set chosen' := ((List.finRange qs'.length).take n').filter fun i =>
    decide ((qs'.get i).key? = some key) with hchosen'
  -- both lists of places ascend, so they agree once they have the same members
  have hmap : chosen' = chosen.map e.place := by
    refine List.Pairwise.eq_of_mem_iff (pairwise_filter_take_finRange _ _ _) ?_ fun j => ?_
    · refine List.pairwise_map.2 ((pairwise_filter_take_finRange _ _ _).imp_of_mem ?_)
      intro i j hi hj hlt
      exact e.ordered hlt (of_decide_eq_true (List.mem_filter.1 hi).2)
        (of_decide_eq_true (List.mem_filter.1 hj).2)
    · obtain ⟨i, rfl⟩ := e.place.surjective j
      rw [List.mem_map_of_injective e.place.injective, hchosen, hchosen', List.mem_filter,
        List.mem_filter, mem_take_finRange, mem_take_finRange, e.same, decide_eq_true_iff]
      exact and_congr_left fun hkey => (hplaces i hkey).symm
  rw [hmap, List.map_map]
  exact List.map_congr_left fun i _ => e.same i

theorem filter_eq (e : Rearrangement qs qs') (key : Kind × String) :
    qs'.filter (fun q => decide (q.key? = some key)) =
      qs.filter fun q => decide (q.key? = some key) := by
  rw [← List.take_length (l := qs'), ← List.take_length (l := qs)]
  exact e.filter_take_eq fun i _ => iff_of_true i.isLt (e.place i).isLt

variable {r : Registry}

theorem serve_after_take (e : Rearrangement qs qs') (i : Fin qs.length) :
    (Resolver.serve r.provider (qs.get i)
        (Resolver.after r.provider (qs'.take (e.place i)) (.new ()))).1 =
      (Resolver.serve r.provider (qs.get i)
        (Resolver.after r.provider (qs.take i) (.new ()))).1 := by
  cases hkey : (qs.get i).key? with
  | none =>
      rw [Resolver.serve_after_of_key?_eq_none r _ hkey,
        Resolver.serve_after_of_key?_eq_none r _ hkey]
  | some key =>
      have hserves : (r.provider : Provider Unit).Serves r := r.serves_provider
      have hchosen : decide ((qs.get i).key? = some key) = true := decide_eq_true hkey
      have hplaces : ∀ j, (qs.get j).key? = some key →
          (j.val < i.val ↔ (e.place j).val < (e.place i).val) := by
        intro j hj
        rcases lt_trichotomy j i with hlt | rfl | hlt
        · exact iff_of_true hlt (e.ordered hlt hj hkey)
        · exact iff_of_false (lt_irrefl _) (lt_irrefl _)
        · exact iff_of_false (lt_asymm hlt) (lt_asymm (e.ordered hlt hkey hj))
      rw [← Resolver.serve_after_filter hserves r.quiet_provider (byKey_key key) hchosen (qs'.take _),
        e.filter_take_eq hplaces,
        Resolver.serve_after_filter hserves r.quiet_provider (byKey_key key) hchosen (qs.take _)]

theorem caches_after (e : Rearrangement qs qs') :
    (Resolver.after r.provider qs' (.new ())).caches =
      (Resolver.after r.provider qs (.new ())).caches := by
  refine Caches.ext_get? fun kind text => ?_
  cases hkey : Request.key? ⟨kind, text⟩ with
  | none =>
      have hnone := Resolver.cached?_after_of_key?_eq_none (q := ⟨kind, text⟩) r
      exact (hnone qs' hkey).trans (hnone qs hkey).symm
  | some key =>
      have hserves : (r.provider : Provider Unit).Serves r := r.serves_provider
      have hfilter (qs : List Request) :=
        (Resolver.answers_filter hserves r.quiet_provider (byKey_key key) qs
          (.refl _ (World.new ()).caches)).2 (q := ⟨kind, text⟩) (decide_eq_true hkey)
      exact (hfilter qs').symm.trans (e.filter_eq key ▸ hfilter qs)

/-- Two requests without a common key leave the same caches in either order. -/
theorem caches_after_swap {q q' : Request} (h : q.key? = none ∨ q.key? ≠ q'.key?) :
    (Resolver.after r.provider [q', q] (.new ())).caches =
      (Resolver.after r.provider [q, q'] (.new ())).caches :=
  (swap h).caches_after

end Rearrangement

/-- Requests made of a new resolver over a registry may change places as long as
those with the same kind and normalized form keep their order: each is answered
alike, and the caches are the same in the end. They may also be left out along with
all others of their kind and normalized form: the results of the others stay, and
so do their entries. -/
theorem rearranged_requests (r : Registry) (qs : List Request) :
    (∀ (qs' : List Request) (e : Rearrangement qs qs'),
      (∀ i, (Resolver.answers r.provider qs' (.new ()))[(e.place i).val]? =
          (Resolver.answers r.provider qs (.new ()))[i.val]?) ∧
        (Resolver.after r.provider qs' (.new ())).caches =
          (Resolver.after r.provider qs (.new ())).caches) ∧
      ∀ p, ByKey p →
        Resolver.answers r.provider (qs.filter p) (.new ()) =
            (Resolver.answers r.provider qs (.new ())).filter (fun a => p a.1) ∧
          ∀ kind text, p ⟨kind, text⟩ = true →
            (Resolver.after r.provider (qs.filter p) (.new ())).cached? kind text =
              (Resolver.after r.provider qs (.new ())).cached? kind text := by
  constructor
  · intro qs' e
    refine ⟨fun i => ?_, e.caches_after⟩
    have hsame : qs'[(e.place i).val] = qs[i.val] := e.same i
    rw [Resolver.getElem?_answers r.provider (e.place i).isLt,
      Resolver.getElem?_answers r.provider i.isLt, hsame]
    exact congrArg (fun result => some (qs[i.val], result)) (e.serve_after_take i)
  · intro p hp
    obtain ⟨hanswers, hagree⟩ := Resolver.answers_filter r.serves_provider r.quiet_provider hp qs
      (.refl p (World.new ()).caches)
    exact ⟨hanswers, fun kind text hchosen => hagree (q := ⟨kind, text⟩) hchosen⟩

end TypeResolution
