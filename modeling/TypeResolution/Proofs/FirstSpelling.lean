import TypeResolution.Proofs.Session

/-!
Type strings of one kind that a new resolver over a registry finds one after another.
Which type each of them gets is settled by the first of them with the same normalized
form: it is what a new resolver finds for that spelling (`Resolver.Finds.first_spelling`).
The caches hold the type strings and their normalized forms, and nothing else
(`Resolver.Finds.mem_keys`).

What earlier requests have found for a key is `Registry.firstFound?`, where requests that
fail are passed over. As long as nothing fails the first request with the key is the one.
-/

namespace TypeResolution

variable {σ : Type}

def TypeString.form? (text : String) : Option String := (parse text).toOption.map normalized

theorem Request.key?_eq_map_form? (kind : Kind) (text : String) :
    Request.key? ⟨kind, text⟩ = (TypeString.form? text).map fun form => (kind, form) := by
  simp [key?, TypeString.form?, Function.comp_def]

/-- The first of the texts up to the `i`-th that has the same normalized form as it. -/
def firstSpelling? (texts : List String) (i : Nat) : Option String :=
  (texts.take (i + 1)).find? fun text => TypeString.form? text = texts[i]?.bind TypeString.form?

theorem firstSpelling?_append {texts : List String} {i : Nat} (h : i < texts.length)
    (more : List String) : firstSpelling? (texts ++ more) i = firstSpelling? texts i := by
  rw [firstSpelling?, List.take_append_of_le_length h, List.getElem?_append_left h, firstSpelling?]

theorem firstSpelling?_append_singleton (texts : List String) (text : String) :
    firstSpelling? (texts ++ [text]) texts.length =
      (texts ++ [text]).find? fun other => TypeString.form? other = TypeString.form? text := by
  simp [firstSpelling?, List.take_of_length_le]

/-! ### One request after others -/

namespace Registry

variable {r : Registry} {qs : List Request} {q : Request}

theorem firstFound?_append (r : Registry) (key : Kind × String) (qs qs' : List Request) :
    r.firstFound? key (qs ++ qs') = (r.firstFound? key qs).or (r.firstFound? key qs') :=
  List.findSome?_append

theorem firstFound?_singleton (r : Registry) (key : Kind × String) (q : Request) :
    r.firstFound? key [q] = r.finds? key q := by
  simp [firstFound?]

theorem finds?_eq_some_iff {key : Kind × String} {handle : TypeHandle} :
    r.finds? key q = some handle ↔ q.key? = some key ∧ r.resolveNew q = .ok handle := by
  unfold finds?
  cases r.resolveNew q <;> simp [Except.toOption]

/-- What a request gets is what has been found for its key, by itself if not by others
before it. -/
theorem firstFound?_of_serve {handle : TypeHandle}
    (h : (Resolver.serve r.provider q (Resolver.after r.provider qs (.new ()))).1 = .ok handle) :
    ∃ key, q.key? = some key ∧ r.firstFound? key (qs ++ [q]) = some handle := by
  have hrefines := (MemoTable.refines_new ()).after r.source qs
  rw [provider, (hrefines.resolve r.source q).1] at h
  cases hread : TypeString.read q.kind q.text with
  | error e =>
      rw [MemoTable.resolve_of_read_error hread] at h
      cases h
  | ok found =>
      obtain ⟨t, subpath⟩ := found
      refine ⟨_, Request.key?_of_read hread, ?_⟩
      have hentry := MemoTable.known?_after_registry r qs (.new ()) q.kind t.normalized
      rw [firstFound?_append, firstFound?_singleton]
      cases hfirst : r.firstFound? (q.kind, t.normalized) qs with
      | some first =>
          rw [hfirst] at hentry
          rw [MemoTable.resolve_of_read hread, hentry] at h
          cases h
          rfl
      | none =>
          rw [hfirst] at hentry
          rw [MemoTable.resolve_registry hread hentry] at h
          exact finds?_eq_some_iff.2 ⟨Request.key?_of_read hread, h⟩

end Registry

theorem MemoTable.Refines.mem_keys_serve {w w' : World σ} {m : MemoTable σ} (h : Refines w m)
    {source : Source σ} {q : Request} {handle : TypeHandle}
    (hserve : Resolver.serve (.detached source) q w = (.ok handle, w')) {kind : Kind}
    {key : String} :
    key ∈ w'.caches.keys kind ↔ key ∈ w.caches.keys kind ∨ (q.kind = kind ∧ q.StoredUnder key) := by
  rcases htrace : Resolver.trace source q w with ⟨a, w₁⟩
  have hturn : Resolver.Turn source q w a w₁ := by
    simpa [htrace] using Resolver.turn_of_trace source q w
  obtain ⟨hresult, rfl⟩ := Prod.mk.inj (hturn.serve_eq.symm.trans hserve)
  cases hturn with
  | cached hit =>
      obtain ⟨t, _, hread, hnormalized⟩ := h.cached?_normalized_of_hit hit
      rw [Request.storedUnder_iff (TypeString.read_eq_ok_iff.1 hread).1]
      refine (or_iff_left_of_imp ?_).symm
      rintro ⟨rfl, rfl | rfl⟩
      · exact Caches.mem_keys_iff.2 ⟨_, hit⟩
      · exact Caches.mem_keys_iff.2 ⟨_, hnormalized⟩
  | refused _ _ => cases hresult
  | known _ read hit =>
      have hmem := Caches.mem_keys_iff.2 ⟨_, hit⟩
      rw [Request.storedUnder_iff (TypeString.read_eq_ok_iff.1 read).1, World.caches_insert,
        Caches.mem_keys_insert]
      constructor
      · rintro (⟨rfl, rfl⟩ | hkey)
        · exact .inr ⟨rfl, .inl rfl⟩
        · exact .inl hkey
      · rintro (hkey | ⟨rfl, rfl | rfl⟩)
        · exact .inr hkey
        · exact .inl ⟨rfl, rfl⟩
        · exact .inr hmem
  | searched _ read _ =>
      simp only at hresult
      rw [Request.storedUnder_iff (TypeString.read_eq_ok_iff.1 read).1, hresult, Caches.store,
        Caches.mem_keys_insert, Caches.mem_keys_insert]
      grind

/-! ### Type strings that are all found -/

namespace Resolver

theorem after_append (provider : Provider σ) (qs qs' : List Request) (w : World σ) :
    after provider (qs ++ qs') w = after provider qs' (after provider qs w) :=
  List.foldl_append

/-- The texts, asked for one after another from `w₀` on, are all found: they get the
types `handles`, and lead to `w`. -/
inductive Finds (provider : Provider σ) (kind : Kind) (w₀ : World σ) :
    List String → List TypeHandle → World σ → Prop
  | nil : Finds provider kind w₀ [] [] w₀
  | snoc {texts : List String} {handles : List TypeHandle} {w w' : World σ} {text : String}
      {handle : TypeHandle} (before : Finds provider kind w₀ texts handles w)
      (last : serve provider ⟨kind, text⟩ w = (.ok handle, w')) :
      Finds provider kind w₀ (texts ++ [text]) (handles ++ [handle]) w'

namespace Finds

variable {provider : Provider σ} {kind : Kind} {w₀ w : World σ} {texts : List String}
  {handles : List TypeHandle} {r : Registry} {v : World Unit}

theorem length_eq (h : Finds provider kind w₀ texts handles w) : handles.length = texts.length := by
  induction h with
  | nil => rfl
  | snoc _ _ ih => simp [ih]

theorem world_eq (h : Finds provider kind w₀ texts handles w) :
    w = after provider (texts.map (Request.mk kind)) w₀ := by
  induction h with
  | nil => rfl
  | snoc before last ih =>
      subst ih
      rw [List.map_append, List.map_singleton, after_append, after, List.foldl_cons, last,
        List.foldl_nil]

theorem firstFound?_eq (h : Finds r.provider kind (.new ()) texts handles v) (form : String) :
    match texts.find? fun text => TypeString.form? text = some form with
    | none => r.firstFound? (kind, form) (texts.map (Request.mk kind)) = none
    | some first => ∃ handle, r.resolveNew ⟨kind, first⟩ = .ok handle ∧
        r.firstFound? (kind, form) (texts.map (Request.mk kind)) = some handle := by
  induction h with
  | nil => rfl
  | @snoc texts handles w w' text handle before last ih =>
      have hfound := congrArg Prod.fst last
      rw [before.world_eq] at hfound
      obtain ⟨key, hkey, hfirst⟩ := Registry.firstFound?_of_serve hfound
      rw [List.find?_append]
      simp only [List.map_append, List.map_singleton]
      cases hearlier : texts.find? fun text => TypeString.form? text = some form with
      | some first =>
          simp only [hearlier] at ih
          obtain ⟨found, hnew, hknown⟩ := ih
          exact ⟨found, hnew, by rw [Registry.firstFound?_append, hknown, Option.some_or]⟩
      | none =>
          simp only [hearlier] at ih
          rw [Request.key?_eq_map_form?, Option.map_eq_some_iff] at hkey
          obtain ⟨form', hform', rfl⟩ := hkey
          by_cases heq : form' = form
          · -- no text before it had the form, so it has found the type itself
            subst heq
            rw [Registry.firstFound?_append, ih, Option.none_or, Registry.firstFound?_singleton]
              at hfirst ⊢
            simp only [List.find?_singleton, hform', decide_true, if_true, Option.none_or]
            exact ⟨_, (Registry.finds?_eq_some_iff.1 hfirst).2, hfirst⟩
          · have hother : Request.key? ⟨kind, text⟩ ≠ some (kind, form) := by
              simp [Request.key?_eq_map_form?, hform', heq]
            simp [hform', heq, Registry.firstFound?_append, ih, Registry.firstFound?_singleton,
              Registry.finds?, hother]

/-- What each of the texts gets is what a new resolver finds for the first of them that
has its normalized form. -/
theorem first_spelling (h : Finds r.provider kind (.new ()) texts handles v) {i : Nat}
    (hi : i < texts.length) :
    ∃ first handle, firstSpelling? texts i = some first ∧
      r.resolveNew ⟨kind, first⟩ = .ok handle ∧ handles[i]? = some handle := by
  induction h with
  | nil => cases hi
  | @snoc texts handles w w' text handle before last ih =>
      have hlength := before.length_eq
      rcases Nat.lt_succ_iff_lt_or_eq.1 (List.length_append ▸ hi) with hi | rfl
      · obtain ⟨first, found, hfirst, hnew, hhandle⟩ := ih hi
        refine ⟨first, found, ?_, hnew, ?_⟩
        · rw [firstSpelling?_append hi, hfirst]
        · rw [List.getElem?_append_left (hlength ▸ hi), hhandle]
      · have hfound := congrArg Prod.fst last
        rw [before.world_eq] at hfound
        obtain ⟨key, hkey, hknown⟩ := Registry.firstFound?_of_serve hfound
        rw [Request.key?_eq_map_form?, Option.map_eq_some_iff] at hkey
        obtain ⟨form, hform, rfl⟩ := hkey
        have hfirst := (before.snoc last).firstFound?_eq form
        rw [List.map_append, List.map_singleton, hknown] at hfirst
        rw [firstSpelling?_append_singleton, hform]
        cases hspelling :
            (texts ++ [text]).find? fun other => TypeString.form? other = some form with
        | none => simp [hspelling] at hfirst
        | some first =>
            simp only [hspelling, Option.some.injEq] at hfirst
            obtain ⟨found, hnew, rfl⟩ := hfirst
            exact ⟨first, handle, rfl, hnew, by simp [← hlength]⟩

/-- The caches hold the texts and their normalized forms. -/
theorem mem_keys (h : Finds r.provider kind (.new ()) texts handles v) (key : String) :
    key ∈ v.caches.keys kind ↔ ∃ text ∈ texts, Request.StoredUnder ⟨kind, text⟩ key := by
  induction h with
  | nil =>
      have hempty : (World.new ()).caches.keys kind = [] := by cases kind <;> rfl
      simp [hempty]
  | @snoc texts handles w w' text handle before last ih =>
      have hrefines := (MemoTable.refines_new ()).after r.source (texts.map (Request.mk kind))
      rw [← Registry.provider, ← before.world_eq] at hrefines
      rw [hrefines.mem_keys_serve last, ih]
      simp [or_and_right, exists_or]

end Finds

/-- Texts are found until one of them is not. -/
theorem finds_or_fails (provider : Provider σ) (kind : Kind) (texts : List String) (w₀ : World σ) :
    ∃ found rest handles w, texts = found ++ rest ∧ Finds provider kind w₀ found handles w ∧
      ∀ text ∈ rest.head?, ∃ e w', serve provider ⟨kind, text⟩ w = (.error e, w') := by
  induction texts using List.reverseRecOn with
  | nil => exact ⟨[], [], [], w₀, rfl, .nil, by simp⟩
  | append_singleton texts text ih =>
      obtain ⟨found, rest, handles, w, rfl, hfinds, hfails⟩ := ih
      cases rest with
      | cons failed others =>
          exact ⟨found, failed :: (others ++ [text]), handles, w, by simp, hfinds, hfails⟩
      | nil =>
          rcases hserve : serve provider ⟨kind, text⟩ w with ⟨e | handle, w'⟩
          · exact ⟨found, [text], handles, w, by simp, hfinds, by simp [hserve]⟩
          · refine ⟨found ++ [text], [], handles ++ [handle], w', ?_, hfinds.snoc hserve, ?_⟩ <;>
              simp

end Resolver

end TypeResolution
