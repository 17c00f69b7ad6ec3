import Mathlib.Data.List.Permutation
import TypeResolution.Proofs.Resolution

/-!
Resolutions that nest. While a provider is asked for a module, or a class is
looked up in one that it gave out, further calls may be made on the same
resolver, and while these wait for the provider still further ones, to any depth.

A world that is about such a run carries its history: every moment at which
control passes between the resolver and its surroundings, with the caches as they
were then. `Run Allowed w w'` says that finished calls lead from `w` to `w'`,
their providers being among the allowed ones. Each call may have a provider of
its own, and a provider sees the whole history, so nothing is assumed about how
one answer hangs together with another.

An invariant of all runs is proved by `Run.within`: it asks what one call does,
given that whatever happens during the call respects the invariant already. The
depth of the nesting is dealt with there, once.
-/

namespace TypeResolution

inductive Event
  | called (q : Request)
  | asked (modulePath : String)
  | lookedUp (className : String)
  | returned (q : Request) (result : Except ResolveError TypeHandle)

structure Moment where
  event : Event
  caches : Caches

/-- All moments so far, the latest first. -/
abbrev History := List Moment

namespace World

def note (e : Event) (w : World History) : World History :=
  { w with outside := ⟨e, w.caches⟩ :: w.outside }

def call (provider : Provider History) (q : Request) (w : World History) : World History :=
  (Resolver.serve provider q (w.note (.called q))).2.note
    (.returned q (Resolver.serve provider q (w.note (.called q))).1)

@[simp] theorem caches_note (e : Event) (w : World History) : (w.note e).caches = w.caches := rfl

@[simp] theorem outside_note (e : Event) (w : World History) :
    (w.note e).outside = ⟨e, w.caches⟩ :: w.outside := rfl

@[simp] theorem cached?_note (e : Event) (w : World History) (kind : Kind) (key : String) :
    (w.note e).cached? kind key = w.cached? kind key := rfl

def Later (w w' : World History) : Prop := w.outside <:+ w'.outside

theorem Later.refl (w : World History) : Later w w := List.suffix_refl w.outside

theorem Later.trans {u v w : World History} (h : Later u v) (h' : Later v w) : Later u w :=
  List.IsSuffix.trans h h'

theorem later_note (e : Event) (w : World History) : Later w (w.note e) := List.suffix_cons _ _

end World

/-- Finished calls, one after another, lead from one world to the other. While a
provider is asked, or a class is looked up, the caches change by such a run of
further calls and by nothing else. -/
inductive Run (Allowed : Provider History → Prop) : World History → World History → Prop
  | done (w : World History) : Run Allowed w w
  | call {w w' : World History} (q : Request) (provider : Provider History)
      (allowed : Allowed provider)
      (ask : ∀ modulePath v, Run Allowed (v.note (.asked modulePath)) (provider modulePath v).2)
      (lookUp : ∀ {modulePath v lookup}, (provider modulePath v).1 = .ok lookup →
        ∀ className v', Run Allowed (v'.note (.lookedUp className)) (lookup className v').2)
      (rest : Run Allowed (w.call provider q) w') : Run Allowed w w'

variable {Allowed : Provider History → Prop} {w w' : World History}

/-- A run stays within every preorder that holds between the worlds before and
after one call whenever it holds of all that happens during the call. -/
theorem Run.within {G : World History → World History → Prop} (refl : ∀ w, G w w)
    (trans : ∀ {u v w}, G u v → G v w → G u w)
    (asked : ∀ modulePath w, G w (w.note (.asked modulePath)))
    (lookedUp : ∀ className w, G w (w.note (.lookedUp className)))
    (call : ∀ q provider w, Allowed provider → provider.Within G → G w (w.call provider q))
    (run : Run Allowed w w') : G w w' := by
  induction run with
  | done w => exact refl w
  | @call w w' q provider allowed ask lookUp rest ihAsk ihLookUp ihRest =>
      -- the runs nested in the call are smaller, so they stay within `G`
      have hwithin : provider.Within G := by
        constructor
        · intro modulePath v
          exact trans (asked modulePath v) (ihAsk modulePath v)
        · intro modulePath v lookup hgiven className v'
          exact trans (lookedUp className v') (ihLookUp hgiven className v')
      exact trans (call q provider w allowed hwithin) ihRest

/-! ### Runs of a given depth -/

namespace Registry

variable (r : Registry) (during : String → List Request)

def noted (modulePath : String) : Except ProviderError (Lookup History) :=
  (r.openModule modulePath).map fun m className v =>
    (m.lookup className, v.note (.lookedUp className))

/-- Gives out the modules of the registry, and when asked for one has those
requests made that `during` lists for it, as long as the depth allows. -/
def nesting : Nat → Provider History
  | 0 => fun modulePath v => (r.noted modulePath, v.note (.asked modulePath))
  | n + 1 => fun modulePath v =>
    (r.noted modulePath,
      (during modulePath).foldl (fun v q => v.call (nesting n) q) (v.note (.asked modulePath)))

theorem fst_nesting (n : Nat) (modulePath : String) (v : World History) :
    (r.nesting during n modulePath v).1 = r.noted modulePath := by
  cases n <;> rfl

theorem serves_nesting (n : Nat) : (r.nesting during n).Serves r := by
  constructor
  · intro modulePath e v h
    simp [fst_nesting, noted, h, Except.map]
  · intro modulePath m v h
    refine ⟨fun className v' => (m.lookup className, v'.note (.lookedUp className)), ?_, ?_⟩
    · simp [fst_nesting, noted, h, Except.map]
    · intro className v'
      rfl

theorem snd_lookup_nesting {n : Nat} {modulePath : String} {v : World History}
    {lookup : Lookup History} (h : (r.nesting during n modulePath v).1 = .ok lookup)
    (className : String) (v' : World History) :
    (lookup className v').2 = v'.note (.lookedUp className) := by
  rw [fst_nesting, noted] at h
  cases hm : r.openModule modulePath with
  | error e =>
      rw [hm] at h
      cases h
  | ok m =>
      rw [hm] at h
      cases h
      rfl

/-- Requests made of such a provider are a run, however deep it nests. -/
theorem run_nesting (n : Nat) (qs : List Request) (w : World History) :
    Run (·.Serves r) w (qs.foldl (fun v q => v.call (r.nesting during n) q) w) := by
  have hlookUp {n modulePath v lookup} (h : (r.nesting during n modulePath v).1 = .ok lookup)
      (className : String) (v' : World History) :
      Run (·.Serves r) (v'.note (.lookedUp className)) (lookup className v').2 := by
    rw [r.snd_lookup_nesting during h]
    exact .done _
  -- the depth takes care of what is nested, the list of what follows
  induction n generalizing qs w with
  | zero =>
      induction qs generalizing w with
      | nil => exact .done w
      | cons q qs ih =>
          exact .call q _ (r.serves_nesting during 0) (fun _ _ => .done _) hlookUp (ih _)
  | succ n ihDepth =>
      induction qs generalizing w with
      | nil => exact .done w
      | cons q qs ih =>
          exact .call q _ (r.serves_nesting during (n + 1)) (fun _ _ => ihDepth _ _) hlookUp (ih _)

end Registry

/-- Two requests for the class `C` of the module `p.foo`. While that module is
asked for, the class is requested without a subpath, and then a text that is no
type string. -/
def interleaved : World History :=
  [⟨.message, "p/foo/C"⟩, ⟨.service, "p/foo/C"⟩].foldl
    (fun v q => v.call (twoModules.nesting (fun modulePath =>
      if modulePath = "p.foo" then [⟨.message, "p/C"⟩, ⟨.message, "p"⟩] else []) 1) q) (.new [])

/-- The request nested in the first one loads the class from the default module;
the one nested in the second gets what the first has written since. -/
theorem events_interleaved :
    interleaved.outside.map (·.event) =
      [.returned ⟨.service, "p/foo/C"⟩ (.ok (.native "p.foo.C" .integer)),
        .lookedUp "C",
        .returned ⟨.message, "p"⟩ (.error (.invalidTypeString "p")),
        .called ⟨.message, "p"⟩,
        .returned ⟨.message, "p/C"⟩ (.ok (.native "p.foo.C" .integer)),
        .called ⟨.message, "p/C"⟩,
        .asked "p.foo",
        .called ⟨.service, "p/foo/C"⟩,
        .returned ⟨.message, "p/foo/C"⟩ (.ok (.native "p.foo.C" .integer)),
        .lookedUp "C",
        .returned ⟨.message, "p"⟩ (.error (.invalidTypeString "p")),
        .called ⟨.message, "p"⟩,
        .returned ⟨.message, "p/C"⟩ (.ok (.native "p.msg.C" .boolean)),
        .lookedUp "C",
        .asked "p.msg",
        .called ⟨.message, "p/C"⟩,
        .asked "p.foo",
        .called ⟨.message, "p/foo/C"⟩] := by cbv

theorem run_interleaved : Run (·.Serves twoModules) (.new []) interleaved :=
  twoModules.run_nesting _ 1 _ (.new [])

end TypeResolution
