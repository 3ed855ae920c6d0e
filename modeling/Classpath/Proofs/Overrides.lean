import Classpath.Proofs.Traversal

/-!
# Which Declaration Reflection Reports

Of the declarations of one method among the supertypes of a type, reflection reports the first.
The superclasses come first, so that a class hides what an interface declares. The interfaces
come in the order of their distance: one that can be reached by fewer references to interfaces
is before one that takes more. So an interface hides what another one declares if it is nearer,
and in particular if the other one can be reached through it only.

An interface that extends another one does not hide its declaration if it is not nearer, as it
is where a class lists both and the one extended first (`overridden_method_reported`).

## Main definitions

* `Within`: a supertype that some number of references to interfaces leads to.

## Main results

* `Traverses.pairwise_within`: the supertypes come in the order of their distance.
* `nearest_declaration`: the supertype whose declaration is reported.
-/

namespace Classpath

open Relation (ReflTransGen)
open ClassIndex (firstWaiting)

variable {d : Disk} {F : Loaders} {l : Linkage} {c : TypeRef × DefinedClass}

/-! ### Distance -/

/-- At most so many references to interfaces lead to a supertype, if each of them stands in a
supertype. Superclasses take none. -/
inductive Within (d : Disk) (all : List Supertype) : Nat → Supertype → Prop
  | superclass {k : Nat} {s : Supertype} (hs : s ∈ all) (hclass : s.isInterface = false) :
      Within d all k s
  | listed {k : Nat} {z s : Supertype} (hz : Within d all k z) (hs : s ∈ all)
      (hlists : Lists d z.entry s.entry) : Within d all (k + 1) s

/-- A supertype at some distance is one of them. -/
theorem Within.mem {all : List Supertype} {k : Nat} {s : Supertype} (h : Within d all k s) :
    s ∈ all := by
  cases h with
  | superclass hs => exact hs
  | listed _ hs => exact hs

/-- Among some references, one that leads to `s` comes before any with the name of `s'`. -/
def Ahead (d : Disk) (references : List (String × Chain)) (s s' : Supertype) : Prop :=
  ∀ before v after, references = before ++ v :: after → v.1 = s'.type.name →
    ∃ w ∈ before, ({} : Linkage).class? d w.1 w.2 = .ok (some s.entry)

/-- One more reference in front, with another name: it leads to `s` itself, or those behind it do
so early enough. -/
theorem ahead_cons {references : List (String × Chain)} {s s' : Supertype} {w : String × Chain}
    (hne : w.1 ≠ s'.type.name)
    (h : ({} : Linkage).class? d w.1 w.2 = .ok (some s.entry) ∨ Ahead d references s s') :
    Ahead d (w :: references) s s' := by
  intro before v after hsplit hv
  cases before with
  | nil =>
      obtain ⟨rfl, -⟩ := List.cons.inj hsplit
      exact absurd hv hne
  | cons u before =>
      obtain ⟨rfl, hrest⟩ := List.cons.inj hsplit
      obtain hclass | hahead := h
      · exact ⟨w, List.mem_cons_self, hclass⟩
      · obtain ⟨u, hu, hclass⟩ := hahead before v after hrest hv
        exact ⟨u, List.mem_cons_of_mem _ hu, hclass⟩

/-- **First come, first found**: if one interface is found before another, a reference to it
was looked at before any reference to the other. -/
theorem Spreads.pairwise_ahead {seen : List String} {waiting : List (String × Chain)}
    {found : List Supertype} (h : Spreads d seen waiting found) :
    found.Pairwise (Ahead d (waiting ++ firstWaiting found)) := by
  induction h with
  | done => exact List.Pairwise.nil
  | @known _ w _ found hseen hrest ih =>
      have hne : ∀ s' ∈ found, w.1 ≠ s'.type.name :=
        fun s' hs' heq => hrest.nodup.2 s' hs' (heq ▸ hseen)
      exact ih.imp_of_mem fun _ hs' h => ahead_cons (hne _ hs') (Or.inr h)
  | @missing _ w _ found _ _ hrest ih =>
      have hne : ∀ s' ∈ found, w.1 ≠ s'.type.name :=
        fun s' hs' heq => hrest.nodup.2 s' hs' (heq ▸ List.mem_cons_self)
      exact ih.imp_of_mem fun _ hs' h => ahead_cons (hne _ hs') (Or.inr h)
  | @found _ w waiting b found _ hsome hrest ih =>
      have hmore : w :: waiting ++ firstWaiting (⟨b.1, b.2, true⟩ :: found) =
          w :: (waiting ++ b.2.interfaces ++ firstWaiting found) := by
        simp [firstWaiting]
      have hne : ∀ s' ∈ found, w.1 ≠ s'.type.name :=
        fun s' hs' heq => hrest.nodup.2 s' hs' (heq ▸ List.mem_cons_self)
      rw [hmore]
      exact List.pairwise_cons.mpr ⟨fun s' hs' => ahead_cons (hne s' hs') (Or.inl hsome),
        ih.imp_of_mem fun _ hs' h => ahead_cons (hne _ hs') (Or.inr h)⟩

/-- What two runs of superclasses list is what the first one lists and then what the second one
does. -/
theorem firstWaiting_append (xs ys : List Supertype) :
    firstWaiting (xs ++ ys) = firstWaiting xs ++ firstWaiting ys :=
  List.flatMap_append

/-- A reference among those of a supertype. -/
theorem lists_of_mem_interfaces {z : Supertype} {w : String × Chain} {b : TypeRef × DefinedClass}
    (hw : w ∈ z.cls.interfaces) (hclass : ({} : Linkage).class? d w.1 w.2 = .ok (some b)) :
    Lists d z.entry b := by
  obtain ⟨n, hn, rfl⟩ := List.mem_map.mp hw
  exact ⟨n, hn, hclass⟩

/-- **The order of the supertypes** is that of their distance: a supertype is within whatever
number of references one behind it is. -/
theorem Traverses.pairwise_within {above beside : List Supertype}
    (h : Traverses d c above beside) (k : Nat) :
    (above ++ beside).Pairwise fun s s' =>
      Within d (above ++ beside) k s' → Within d (above ++ beside) k s := by
  obtain ⟨seen, hclimbs, hspreads⟩ := h
  have hclass : ∀ s ∈ above, ∀ k, Within d (above ++ beside) k s := fun s hs k =>
    .superclass (List.mem_append_left _ hs) (hclimbs.isInterface_eq_false s hs)
  have hbeside : ∀ s ∈ beside, s.isInterface ≠ false := fun s hs heq => by
    rw [(hspreads.listed s hs).1] at heq
    cases heq
  have habove : ∀ k, above.Pairwise fun s s' =>
      Within d (above ++ beside) k s' → Within d (above ++ beside) k s :=
    fun k => List.pairwise_of_forall_mem_list fun s hs _ _ _ => hclass s hs k
  induction k with
  | zero =>
      refine List.pairwise_append.mpr ⟨habove 0, ?_, fun s hs _ _ _ => hclass s hs 0⟩
      refine List.pairwise_of_forall_mem_list fun _ _ s' hs' hwithin => ?_
      cases hwithin with
      | superclass _ hfalse => exact absurd hfalse (hbeside s' hs')
  | succ k ih =>
      refine List.pairwise_append.mpr ⟨habove _, ?_, fun s hs _ _ _ => hclass s hs _⟩
      refine hspreads.pairwise_ahead.imp_of_mem fun {s s'} hs hs' hfirst hwithin => ?_
      cases hwithin with
      | superclass _ hfalse => exact absurd hfalse (hbeside s' hs')
      | @listed _ z _ hz _ hlists =>
          -- the supertype that lists the one behind lists the one before, or comes after one
          -- that does
          obtain ⟨nearer, farther, hall⟩ := List.append_of_mem hz.mem
          obtain ⟨n, hn, hlists⟩ := hlists
          have hname : n = s'.type.name := (Linkage.name_of_class? hlists).symm
          obtain ⟨before, after, hsplit⟩ := List.append_of_mem
            (show (n, z.cls.chain) ∈ z.cls.interfaces from List.mem_map.mpr ⟨n, hn, rfl⟩)
          have hreferences : firstWaiting above ++ firstWaiting beside =
              (firstWaiting nearer ++ before) ++ (n, z.cls.chain) ::
                (after ++ firstWaiting farther) := by
            rw [← firstWaiting_append, hall, firstWaiting_append]
            simp [firstWaiting, hsplit]
          obtain ⟨w, hw, hclass⟩ := hfirst _ _ _ hreferences hname
          have hmem := List.mem_append_right above hs
          obtain hw | hw := List.mem_append.mp hw
          · obtain ⟨u, hu, hw⟩ := List.mem_flatMap.mp hw
            have hbefore := (List.pairwise_append.mp (hall ▸ ih)).2.2 u hu z List.mem_cons_self
            exact .listed (hall ▸ hbefore (hall ▸ hz)) hmem (lists_of_mem_interfaces hw hclass)
          · have hw : w ∈ z.cls.interfaces := by rw [hsplit]; exact List.mem_append_left _ hw
            exact .listed hz hmem (lists_of_mem_interfaces hw hclass)

/-! ### Hidden declarations -/

/-- A method that is not hidden has no other one with its signature before it. -/
theorem exists_split_of_mem_firstOfSignature {seen : List (String × String)}
    {ms : List MethodRef} {m : MethodRef} (h : m ∈ firstOfSignature seen ms) :
    ∃ before after, ms = before ++ m :: after ∧ m.signature ∉ seen ∧
      ∀ r ∈ before, r.signature ≠ m.signature := by
  induction ms generalizing seen with
  | nil => cases h
  | cons n ms ih =>
      unfold firstOfSignature at h
      split at h
      · rename_i hseen
        obtain ⟨before, after, rfl, hnew, hbefore⟩ := ih h
        refine ⟨n :: before, after, rfl, hnew, List.forall_mem_cons.mpr ⟨fun heq => ?_, hbefore⟩⟩
        exact hnew (heq ▸ by simpa using hseen)
      · rename_i hseen
        obtain rfl | h := List.mem_cons.mp h
        · exact ⟨[], ms, rfl, by simpa using hseen, by simp⟩
        · obtain ⟨before, after, rfl, hnew, hbefore⟩ := ih h
          obtain ⟨hne, hnew⟩ := not_or.mp (mt List.mem_cons.mpr hnew)
          exact ⟨n :: before, after, rfl, hnew,
            List.forall_mem_cons.mpr ⟨fun heq => hne heq.symm, hbefore⟩⟩

/-- So it is declared by a supertype, and by none before that. -/
theorem exists_declaring {all : List Supertype} {m : MethodRef}
    (h : m ∈ firstOfSignature [] (all.flatMap Supertype.methods)) :
    ∃ before x after, all = before ++ x :: after ∧ m ∈ x.methods ∧
      ∀ y ∈ before, ∀ r ∈ y.methods, r.signature ≠ m.signature := by
  obtain ⟨front, back, hsplit, -, hfront⟩ := exists_split_of_mem_firstOfSignature h
  clear h
  induction all generalizing front with
  | nil => simp at hsplit
  | cons s all ih =>
      rw [List.flatMap_cons] at hsplit
      obtain ⟨rest, rfl, hrest⟩ | ⟨rest, hmethods, hrest⟩ := List.append_eq_append_iff.mp hsplit
      · obtain ⟨before, x, after, rfl, hx, hbefore⟩ :=
          ih rest hrest fun r hr => hfront r (List.mem_append_right _ hr)
        exact ⟨s :: before, x, after, rfl, hx, List.forall_mem_cons.mpr
          ⟨fun r hr => hfront r (List.mem_append_left _ hr), hbefore⟩⟩
      · cases rest with
        | nil =>
            obtain ⟨before, x, after, rfl, hx, hbefore⟩ := ih [] hrest.symm (by simp)
            rw [List.append_nil] at hmethods
            exact ⟨s :: before, x, after, rfl, hx,
              List.forall_mem_cons.mpr ⟨hmethods ▸ hfront, hbefore⟩⟩
        | cons r rest =>
            obtain ⟨rfl, -⟩ := List.cons.inj hrest
            exact ⟨[], s, all, rfl, hmethods ▸ by simp, by simp⟩

/-- **The declaration that is reported.** After any session, let a type have its methods. Each
is declared by a supertype, such that every supertype that offers a method with its signature
is no nearer: whatever number of references to interfaces leads to it leads to the one that
declares the method. -/
theorem nearest_declaration (h : l.Reached d F) (hc : l.find? c.1.scope c.1.name = some c.2)
    {ms : List MethodRef} {l' : Linkage} (hmethods : Runs (methods d c.1) l ms l') :
    ∃ all, Runs (supertypes d c.1) l all l' ∧ (all.map (·.type.name)).Nodup ∧
      ∀ m ∈ ms, ∃ x ∈ all, m ∈ x.methods ∧
        ∀ y ∈ all, (∃ r ∈ y.methods, r.signature = m.signature) →
          ∀ k, Within d all k y → Within d all k x := by
  obtain ⟨all, _, hrun, hmethods⟩ := runs_bind.mp hmethods
  obtain ⟨rfl, rfl⟩ := runs_pure.mp hmethods
  obtain ⟨above, beside, rfl, htraverses⟩ := h.delegated.traverses hc hrun
  refine ⟨_, hrun, htraverses.nodup, fun m hm => ?_⟩
  obtain ⟨before, x, after, hsplit, hx, hbefore⟩ := exists_declaring hm
  refine ⟨x, by rw [hsplit]; simp, hx, fun y hy hoffers k hwithin => ?_⟩
  obtain ⟨r, hr, hsame⟩ := hoffers
  have horder := htraverses.pairwise_within k
  rw [hsplit, List.mem_append, List.mem_cons] at hy
  obtain hy | rfl | hy := hy
  · exact absurd hsame (hbefore y hy r hr)
  · exact hwithin
  · have hbehind : (x :: after).Pairwise _ := (List.pairwise_append.mp (hsplit ▸ horder)).2.1
    exact hsplit ▸ (List.pairwise_cons.mp hbehind).1 y hy (hsplit ▸ hwithin)

/-! ### An interface and one that it extends -/

/-- An interface with one method. -/
def rootDecl : ClassDecl := ⟨"Root", none, [], true, [], [], [⟨"name", true, false, "()V", [], []⟩]⟩

/-- An interface that extends it and declares the method again. -/
def leafDecl : ClassDecl :=
  ⟨"Leaf", none, ["Root"], true, [], [], [⟨"name", true, false, "()V", [], []⟩]⟩

/-- An interface that extends the leaf alone. -/
def oneDecl : ClassDecl := ⟨"One", none, ["Leaf"], false, [], [], []⟩

/-- An interface that lists the root in front of the leaf. -/
def bothDecl : ClassDecl := ⟨"Both", none, ["Root", "Leaf"], false, [], [], []⟩

/-- A disk with two interfaces, a class that lists one of them and a class that lists both. -/
def leafDisk : Disk where
  entries := [(["c"], .directory), (["c", "Root.class"], .file 0), (["c", "Leaf.class"], .file 1),
    (["c", "One.class"], .file 2), (["c", "Both.class"], .file 3)]
  contents := [rootDecl.toBytes, leafDecl.toBytes, oneDecl.toBytes, bothDecl.toBytes]

/-- A loader for the directory of the class files. -/
def leafLoader : Chain × Loaders := Loaders.empty.add "app" [Url.ofPath "/c"] none

def leafClass (decl : ClassDecl) : TypeRef × DefinedClass :=
  (⟨decl.name, ⟨1⟩⟩, ⟨decl, leafLoader.1⟩)

/-- A session in which both classes were resolved. -/
def leafSession : Linkage :=
  Operation.perform leafDisk (.resolve "Both" leafLoader.1)
    (Operation.perform leafDisk (.resolve "One" leafLoader.1) {})

theorem leafSession_reached : leafSession.Reached leafDisk leafLoader.2 := by
  have hmade : leafLoader.1 ∈ leafLoader.2.made := by simp [leafLoader, Loaders.add]
  exact .step (.step .start hmade) hmade

/-- What lookups and reflection come to on this disk. -/
theorem leafSession_computes :
    leafSession.find? ⟨1⟩ "One" = some (leafClass oneDecl).2 ∧
      leafSession.find? ⟨1⟩ "Both" = some (leafClass bothDecl).2 ∧
      (outcome (methods leafDisk ⟨"One", ⟨1⟩⟩) leafSession).1.toOption =
        some [⟨"Leaf", "name", "()V", ⟨1⟩⟩] ∧
      (outcome (methods leafDisk ⟨"Both", ⟨1⟩⟩) leafSession).1.toOption =
        some [⟨"Root", "name", "()V", ⟨1⟩⟩] ∧
      ((outcome (supertypes leafDisk ⟨"Both", ⟨1⟩⟩) leafSession).1.toOption.map
        (·.map Supertype.entry)) =
          some [leafClass bothDecl, leafClass rootDecl, leafClass leafDecl] ∧
      (({} : Linkage).class? leafDisk "Root" leafLoader.1).toOption =
        some (some (leafClass rootDecl)) := by decide +kernel

/-- A class that lists the interface that overrides: its declaration is reported. -/
theorem nearest_declaration_one :
    leafSession.find? ⟨1⟩ "One" = some (leafClass oneDecl).2 ∧
      ∃ ms l', Runs (methods leafDisk ⟨"One", ⟨1⟩⟩) leafSession ms l' ∧
        ⟨"Leaf", "name", "()V", ⟨1⟩⟩ ∈ ms ∧
        ∃ all, (∃ l', Runs (supertypes leafDisk ⟨"One", ⟨1⟩⟩) leafSession all l') ∧
          ∃ x ∈ all, ⟨"Leaf", "name", "()V", ⟨1⟩⟩ ∈ x.methods ∧
            ∀ y ∈ all, (∃ r ∈ y.methods, r.signature = ("name", "()V")) →
              ∀ k, Within leafDisk all k y → Within leafDisk all k x := by
  obtain ⟨hfind, -, hmethods, -⟩ := leafSession_computes
  obtain ⟨l', hmethods⟩ := exists_runs_of_toOption hmethods
  obtain ⟨all, hrun, -, hnearest⟩ := nearest_declaration (c := leafClass oneDecl)
    leafSession_reached hfind hmethods
  obtain ⟨x, hx, hm, hnearer⟩ := hnearest _ List.mem_cons_self
  exact ⟨hfind, _, l', hmethods, List.mem_cons_self, all, ⟨l', hrun⟩, x, hx, hm, hnearer⟩

/-- **An overridden method is reported** for the class that lists both interfaces, the one that
is extended first. -/
theorem overridden_method_reported :
    leafSession.Reached leafDisk leafLoader.2 ∧
      leafSession.find? ⟨1⟩ "Both" = some (leafClass bothDecl).2 ∧
      (∃ all l', Runs (supertypes leafDisk ⟨"Both", ⟨1⟩⟩) leafSession all l' ∧
        all.map Supertype.entry = [leafClass bothDecl, leafClass rootDecl, leafClass leafDecl]) ∧
      Relation.ReflTransGen (Lists leafDisk) (leafClass leafDecl) (leafClass rootDecl) ∧
      ¬Relation.ReflTransGen (Lists leafDisk) (leafClass rootDecl) (leafClass leafDecl) ∧
      rootDecl.isInterface = true ∧ leafDecl.isInterface = true ∧
      (∃ m ∈ leafDecl.methods, m.isPublic = true ∧ m.isStatic = false ∧ m.name = "name" ∧
        m.descriptor = "()V") ∧
      ∃ ms l', Runs (methods leafDisk ⟨"Both", ⟨1⟩⟩) leafSession ms l' ∧
        ⟨"Root", "name", "()V", ⟨1⟩⟩ ∈ ms := by
  obtain ⟨-, hfind, -, hmethods, hsupertypes, hclass⟩ := leafSession_computes
  obtain ⟨all, hall, hentries⟩ := Option.map_eq_some_iff.mp hsupertypes
  obtain ⟨l₁, hall⟩ := exists_runs_of_toOption hall
  obtain ⟨l₂, hmethods⟩ := exists_runs_of_toOption hmethods
  refine ⟨leafSession_reached, hfind, ⟨all, l₁, hall, hentries⟩,
    .single ⟨"Root", List.mem_cons_self, toOption_eq_some_iff.mp hclass⟩, fun hextends => ?_,
    rfl, rfl, ⟨_, List.mem_cons_self, rfl, rfl, rfl, rfl⟩, _, l₂, hmethods, List.mem_cons_self⟩
  -- the interface that is extended lists nothing itself
  obtain heq | ⟨_, ⟨n, hn, -⟩, -⟩ := hextends.cases_head
  · exact absurd heq (by decide)
  · exact absurd hn List.not_mem_nil

end Classpath
