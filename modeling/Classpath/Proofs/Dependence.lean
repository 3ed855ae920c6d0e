import Classpath.Proofs.Additions

/-!
# What Computations Depend On

Lookups do not change while classes are added. So what a computation comes to, started with the
classes by then, can be told from the classes that some larger computation began with.
`Comes F N w x r` says that it comes to `r`, whether this is a value or a failure, and that it
defines classes under names that satisfy `N` only.

A computation depends on nothing else than what it looks up. `Alike F N w w' x x' P E` compares it
on two disks with two collections of classes: both come to the same, which satisfies `P` if it is a
value, and `E` if it is an error.

## Main results

* `comes_bind`, `comes_resolve`: the rules for sequences and for resolution.
* `alike_bind`: the rule for two sequences that are compared.
-/

namespace Classpath

variable {ε α β : Type} {d : Disk} {F : Loaders} {N : String → Prop} {l l' l'' : Linkage}
  {w w' : Disk × Linkage}

/-! ### Names of classes that are added -/

namespace Linkage

/-- The classes `l'` are those of `l` and others that loaders of `F` read from the disk, under names
that satisfy `N`. -/
structure GrowsBy (d : Disk) (F : Loaders) (N : String → Prop) (l l' : Linkage) : Prop where
  grows : l.Grows d F l'
  named : ∀ {s : Scope} {n : String} {c : DefinedClass},
    l'.find? s n = some c → l.find? s n = some c ∨ N n

/-- No class is added where nothing is done. -/
@[refl] theorem GrowsBy.refl (d : Disk) (F : Loaders) (N : String → Prop) (l : Linkage) :
    l.GrowsBy d F N l :=
  ⟨.refl .., Or.inl⟩

/-- What is added first and what is added then is all added under names of the same kind. -/
@[trans] theorem GrowsBy.trans (h : l.GrowsBy d F N l') (h' : l'.GrowsBy d F N l'') :
    l.GrowsBy d F N l'' where
  grows := h.grows.trans h'.grows
  named hfind := (h'.named hfind).elim h.named Or.inr

/-- To define what a lookup found adds one class, under the name that was looked up. -/
theorem growsBy_define {n : String} {c : Chain} {t : TypeRef} {cls : DefinedClass}
    (hc : c ∈ F.made) (hn : N n) (h : l.class? d n c = .ok (some (t, cls))) :
    l.GrowsBy d F N (l.define t.scope t.name cls) where
  grows := grows_define hc h
  named hfind := by
    rw [find?_define] at hfind
    split at hfind
    · rename_i hcond
      obtain ⟨-, -, rfl⟩ := hcond
      exact Or.inr (name_of_class? h ▸ hn)
    · exact Or.inl hfind

/-- What a lookup finds depends on what the loaders of the chain have. -/
theorem class?_congr {d' : Disk} {n : String} {c : Chain}
    (h : ∀ p ∈ c.chains, l'.own? d' n p = l.own? d n p) : l'.class? d' n c = l.class? d n c := by
  obtain ⟨x, ps⟩ := c
  induction ps generalizing x with
  | nil => rw [class?_single, class?_single, h _ (Chain.self_mem_chains _)]
  | cons p ps ih =>
      have habove : ∀ q ∈ (⟨p, ps⟩ : Chain).chains, l'.own? d' n q = l.own? d n q := by
        intro q hq
        refine h q ?_
        rw [Chain.chains_cons]
        exact List.mem_cons_of_mem _ hq
      rw [class?_cons, class?_cons, ih p habove, h _ (Chain.self_mem_chains _)]

end Linkage

/-! ### Resolution -/

/-- What a name is resolved to. -/
def resolution (w : Disk × Linkage) (n : String) (c : Chain) : Except LinkError TypeRef :=
  (outcome (resolve w.1 n c) w.2).1

/-- The outcome of resolution by what the lookup of the class comes to. -/
theorem outcome_resolve (d : Disk) (n : String) (c : Chain) (l : Linkage) :
    outcome (resolve d n c) l =
      match l.class? d n c with
      | .error e => (.error e, l)
      | .ok none => (.error (.classNotFound n), l)
      | .ok (some (t, cls)) => (.ok t, l.define t.scope t.name cls) := by
  unfold resolve
  rw [outcome_bind, outcome_resolve?]
  rcases l.class? d n c with _ | _ | ⟨t, cls⟩ <;> rfl

/-- What a name is resolved to depends on the lookup of its class. -/
theorem resolution_congr {n : String} {c : Chain} (h : w'.2.class? w'.1 n c = w.2.class? w.1 n c) :
    resolution w' n c = resolution w n c := by
  unfold resolution
  rw [outcome_resolve, outcome_resolve, h]
  rcases w.2.class? w.1 n c with _ | _ | ⟨t, cls⟩ <;> rfl

/-! ### Computations that come to something -/

/-- Started with classes grown from those of `w`, on its disk, `x` comes to `r`, and defines classes
under names that satisfy `N` only. -/
def Comes (F : Loaders) (N : String → Prop) (w : Disk × Linkage)
    (x : ExceptT ε (StateM Linkage) α) (r : Except ε α) : Prop :=
  ∀ l, w.2.GrowsBy w.1 F N l → (outcome x l).1 = r ∧ l.GrowsBy w.1 F N (outcome x l).2

/-- What a computation comes to when it is started with the very classes that it is compared with.
-/
theorem Comes.outcome {x : ExceptT ε (StateM Linkage) α} {r : Except ε α}
    (h : Comes F N w x r) :
    (outcome x w.2).1 = r ∧ w.2.GrowsBy w.1 F N (outcome x w.2).2 :=
  h w.2 (.refl ..)

theorem comes_pure {a : α} : Comes F N w (pure a : ExceptT ε (StateM Linkage) α) (.ok a) :=
  fun _ _ => ⟨rfl, .refl ..⟩

/-- **Sequences** come to what their parts do, one after the other. -/
theorem comes_bind {x : ExceptT ε (StateM Linkage) α} {f : α → ExceptT ε (StateM Linkage) β}
    {r : Except ε α} {g : α → Except ε β} (hx : Comes F N w x r)
    (hf : ∀ a, r = .ok a → Comes F N w (f a) (g a)) : Comes F N w (x >>= f) (r >>= g) := by
  intro l hl
  obtain ⟨hr, hgrows⟩ := hx l hl
  rw [outcome_bind]
  revert hr hgrows
  rcases Classpath.outcome x l with ⟨e | a, m⟩
  · rintro rfl hgrows
    exact ⟨rfl, hgrows⟩
  · rintro rfl hgrows
    obtain ⟨hr, hgrows'⟩ := hf a rfl m (hl.trans hgrows)
    exact ⟨hr, hgrows.trans hgrows'⟩

/-- A computation that is passed on from reflection comes to the same, with the error of the scan.
-/
theorem comes_lift {asScan : LinkError → ScanError} {x : Linked α} {r : Except LinkError α}
    (h : Comes F N w x r) : Comes F N w (Query.lift asScan x) (r.mapError asScan) := by
  intro l hl
  obtain ⟨rfl, hgrows⟩ := h l hl
  rw [outcome_lift]
  revert hgrows
  rcases Classpath.outcome x l with ⟨e | a, m⟩ <;> exact fun hgrows => ⟨rfl, hgrows⟩

/-- **Resolution** of a name defines a class of this name, if any. -/
theorem comes_resolve {n : String} {c : Chain} (hc : c ∈ F.made) (hn : N n) :
    Comes F N w (resolve w.1 n c) (resolution w n c) := by
  intro l hl
  have hsame : l.class? w.1 n c = w.2.class? w.1 n c := hl.grows.class?_eq hc
  have hresolution : resolution (w.1, l) n c = resolution w n c := resolution_congr hsame
  refine ⟨hresolution, ?_⟩
  rw [outcome_resolve]
  rcases hclass : l.class? w.1 n c with _ | _ | ⟨t, cls⟩
  · exact .refl ..
  · exact .refl ..
  · exact Linkage.growsBy_define hc hn hclass

/-! ### Computations that are compared -/

/-- `x`, on the disk and with the classes of `w`, and `x'`, with those of `w'`, come to the same: a
value that satisfies `P`, or an error that satisfies `E`. -/
def Alike (F : Loaders) (N : String → Prop) (w w' : Disk × Linkage)
    (x x' : ExceptT ε (StateM Linkage) α) (P : α → Prop) (E : ε → Prop) : Prop :=
  ∃ r, Comes F N w x r ∧ Comes F N w' x' r ∧ (∀ a, r = .ok a → P a) ∧ ∀ e, r = .error e → E e

variable {P Q : α → Prop} {R : β → Prop} {E : ε → Prop}
  {x x' : ExceptT ε (StateM Linkage) α} {f f' : α → ExceptT ε (StateM Linkage) β}

theorem alike_pure {a : α} (h : P a) :
    Alike F N w w' (pure a : ExceptT ε (StateM Linkage) α) (pure a) P E :=
  ⟨.ok a, comes_pure, comes_pure, fun b hb => by cases hb; exact h, fun e he => by cases he⟩

/-- What is known of the value that two computations come to may be weakened. -/
theorem Alike.mono (h : Alike F N w w' x x' P E) (hP : ∀ a, P a → Q a) :
    Alike F N w w' x x' Q E := by
  obtain ⟨r, hx, hx', hvalue, herror⟩ := h
  exact ⟨r, hx, hx', fun a ha => hP a (hvalue a ha), herror⟩

/-- **Two sequences** come to the same if their parts do. -/
theorem alike_bind (hx : Alike F N w w' x x' P E)
    (hf : ∀ a, P a → Alike F N w w' (f a) (f' a) R E) :
    Alike F N w w' (x >>= f) (x' >>= f') R E := by
  obtain ⟨r, hx, hx', hvalue, herror⟩ := hx
  cases r with
  | error e =>
      refine ⟨.error e, comes_bind (g := fun _ => .error e) hx nofun,
        comes_bind (g := fun _ => .error e) hx' nofun, nofun, fun e' he' => herror e' ?_⟩
      cases he'
      rfl
  | ok a =>
      obtain ⟨r, hfa, hfa', hrest⟩ := hf a (hvalue a rfl)
      refine ⟨r, comes_bind (g := fun _ => r) hx fun b hb => ?_,
        comes_bind (g := fun _ => r) hx' fun b hb => ?_, hrest⟩
      · cases hb
        exact hfa
      · cases hb
        exact hfa'

end Classpath
