import Mathlib.Data.List.Basic
import Classpath.ClassFile.Name
import Classpath.Path

/-!
# Segments of Paths

What cutting a text at a separator and joining paths come to. A path that is joined from two
others has the segments of both, one behind the other, except that a slash at the end of the
first one leaves no empty segment between them (`Path.split_join`). The segments of the
resource of a class are names: none of them is a dot or leads upwards
(`ClassFile.not_dots_of_mem_split`).

## Main results

* `Text.join_split`, `Text.split_join`: cutting and joining undo each other.
* `Text.split_append`: the segments of a text with something behind it.
* `Text.notMem_replace`, `Text.mem_split_trimStart_iff`: texts that are rewritten and trimmed.
* `Path.split_join`, `Path.components_join`, `Path.join_assoc`: joined paths.
* `Path.foldl_join`: a path below another one, name by name.
-/

namespace Classpath

namespace Text

/-! ### Cutting -/

variable {sep : Char}

/-- Cutting leaves a piece at least, so the first one can be named. -/
theorem exists_pieces_eq_cons (sep : Char) (cs : List Char) :
    ∃ p ps, pieces sep cs = p :: ps :=
  List.exists_cons_of_ne_nil (pieces_ne_nil sep cs)

/-- A separator at the front has an empty piece before it. -/
theorem pieces_cons_sep (cs : List Char) : pieces sep (sep :: cs) = [] :: pieces sep cs := by
  rw [pieces, if_pos rfl]

/-- Any other character at the front belongs to the first piece. -/
theorem pieces_cons_of_ne {c : Char} (hc : c ≠ sep) {cs p : List Char} {ps : List (List Char)}
    (hp : pieces sep cs = p :: ps) : pieces sep (c :: cs) = (c :: p) :: ps := by
  rw [pieces, if_neg hc, hp]

/-- Two texts with a separator between them are cut apart there: the pieces are those of the first
one and then those of the second. -/
theorem pieces_append_sep (xs ys : List Char) :
    pieces sep (xs ++ sep :: ys) = pieces sep xs ++ pieces sep ys := by
  induction xs with
  | nil => exact pieces_cons_sep ys
  | cons c xs ih =>
      obtain ⟨p, ps, hp⟩ := exists_pieces_eq_cons sep xs
      rw [hp] at ih
      rw [List.cons_append]
      by_cases hc : c = sep
      · rw [hc, pieces_cons_sep, pieces_cons_sep, ih, hp]
        rfl
      · rw [pieces_cons_of_ne hc hp, pieces_cons_of_ne hc ih]
        rfl

/-- What stands behind a text goes on in its last piece. -/
theorem pieces_append (sep : Char) (xs ys : List Char) :
    ∃ before last first after, pieces sep xs = before ++ [last] ∧
      pieces sep ys = first :: after ∧
      pieces sep (xs ++ ys) = before ++ (last ++ first) :: after := by
  induction xs with
  | nil =>
      obtain ⟨p, ps, hp⟩ := exists_pieces_eq_cons sep ys
      exact ⟨[], [], p, ps, rfl, hp, hp⟩
  | cons c xs ih =>
      obtain ⟨before, last, first, after, hxs, hys, happend⟩ := ih
      rw [List.cons_append]
      by_cases hc : c = sep
      · refine ⟨[] :: before, last, first, after, ?_, hys, ?_⟩
        · rw [hc, pieces_cons_sep, hxs]
          rfl
        · rw [hc, pieces_cons_sep, happend]
          rfl
      · cases before with
        | nil =>
            exact ⟨[], c :: last, first, after, pieces_cons_of_ne hc hxs, hys,
              pieces_cons_of_ne hc happend⟩
        | cons p before =>
            exact ⟨(c :: p) :: before, last, first, after, pieces_cons_of_ne hc hxs, hys,
              pieces_cons_of_ne hc happend⟩

/-- No piece holds a separator. -/
theorem sep_notMem_of_mem_pieces {cs p : List Char} (h : p ∈ pieces sep cs) : sep ∉ p := by
  induction cs generalizing p with
  | nil =>
      rw [pieces, List.mem_singleton] at h
      simp [h]
  | cons c cs ih =>
      by_cases hc : c = sep
      · rw [hc, pieces_cons_sep] at h
        obtain rfl | h := List.mem_cons.mp h
        · simp
        · exact ih h
      · obtain ⟨q, qs, hq⟩ := exists_pieces_eq_cons sep cs
        rw [pieces_cons_of_ne hc hq] at h
        rw [hq] at ih
        obtain rfl | h := List.mem_cons.mp h
        · rw [List.mem_cons, not_or]
          exact ⟨fun heq => hc heq.symm, ih List.mem_cons_self⟩
        · exact ih (List.mem_cons_of_mem _ h)

/-- The characters of a piece are characters of the text it was cut from. -/
theorem mem_of_mem_pieces {cs p : List Char} (h : p ∈ pieces sep cs) {c : Char} (hc : c ∈ p) :
    c ∈ cs := by
  induction cs generalizing p with
  | nil =>
      rw [pieces, List.mem_singleton] at h
      exact h ▸ hc
  | cons x cs ih =>
      by_cases hx : x = sep
      · rw [hx, pieces_cons_sep] at h
        obtain rfl | h := List.mem_cons.mp h
        · cases hc
        · exact List.mem_cons_of_mem _ (ih h hc)
      · obtain ⟨q, qs, hq⟩ := exists_pieces_eq_cons sep cs
        rw [pieces_cons_of_ne hx hq] at h
        rw [hq] at ih
        obtain rfl | h := List.mem_cons.mp h
        · obtain rfl | hc := List.mem_cons.mp hc
          · exact List.mem_cons_self
          · exact List.mem_cons_of_mem _ (ih List.mem_cons_self hc)
        · exact List.mem_cons_of_mem _ (ih (List.mem_cons_of_mem _ h) hc)

/-- A text without a separator is a single piece. -/
theorem pieces_eq_singleton {cs : List Char} (h : sep ∉ cs) : pieces sep cs = [cs] := by
  induction cs with
  | nil => rfl
  | cons c cs ih =>
      rw [List.mem_cons, not_or] at h
      exact pieces_cons_of_ne (fun heq => h.1 heq.symm) (ih h.2)

theorem split_ne_nil (sep : Char) (s : String) : split sep s ≠ [] := by
  simpa [split] using pieces_ne_nil sep s.toList

theorem sep_notMem_of_mem_split {s t : String} (h : t ∈ split sep s) : sep ∉ t.toList := by
  obtain ⟨p, hp, rfl⟩ := List.mem_map.mp h
  rw [String.toList_ofList]
  exact sep_notMem_of_mem_pieces hp

theorem split_eq_singleton {s : String} (h : sep ∉ s.toList) : split sep s = [s] := by
  simp [split, pieces_eq_singleton h]

/-- Two texts with a slash between them have the segments of both. -/
theorem split_append_sep (a b : String) :
    split '/' (a ++ "/" ++ b) = split '/' a ++ split '/' b := by
  have hchars : (a ++ "/" ++ b).toList = a.toList ++ '/' :: b.toList := by
    simp [String.toList_append]
  unfold split
  rw [hchars, pieces_append_sep, List.map_append]

/-- A slash at the end has an empty segment behind it. -/
theorem split_append_slash (a : String) : split '/' (a ++ "/") = split '/' a ++ [""] := by
  have hempty : split '/' "" = [""] := by decide
  rw [← hempty, ← split_append_sep, String.append_empty]

/-- A text that ends with a slash has something in front of it, be it empty. -/
theorem exists_of_endsWith_slash {s : String} (h : endsWith s "/" = true) :
    ∃ front, s = front ++ "/" := by
  obtain ⟨cs, hcs⟩ := List.isSuffixOf_iff_suffix.mp h
  refine ⟨String.ofList cs, ?_⟩
  rw [← String.toList_inj, String.toList_append, String.toList_ofList]
  exact hcs.symm

/-- A text ends as what stands at its end does. -/
theorem endsWith_append (a : String) {b : String} (hb : b ≠ "") :
    endsWith (a ++ b) "/" = endsWith b "/" := by
  have hslash : "/".toList = ['/'] := by decide
  have hne : b.toList ≠ [] := fun hnil => hb (String.toList_eq_nil_iff.mp hnil)
  rw [Bool.eq_iff_iff, endsWith, endsWith, List.isSuffixOf_iff_suffix, List.isSuffixOf_iff_suffix,
    hslash, List.singleton_suffix_iff_getLast?_eq_some, List.singleton_suffix_iff_getLast?_eq_some,
    String.toList_append, List.getLast?_append_of_ne_nil _ hne]

/-- What stands behind a text goes on in its last segment. -/
theorem split_append (sep : Char) (a b : String) :
    ∃ before last first after, split sep a = before ++ [last] ∧
      split sep b = first :: after ∧ split sep (a ++ b) = before ++ (last ++ first) :: after := by
  obtain ⟨before, last, first, after, ha, hb, hab⟩ := pieces_append sep a.toList b.toList
  refine ⟨before.map String.ofList, String.ofList last, String.ofList first,
    after.map String.ofList, ?_, ?_, ?_⟩
  · simp [split, ha]
  · simp [split, hb]
  · unfold split
    rw [String.toList_append, hab, List.map_append, List.map_cons, String.ofList_append]

/-! ### Joining -/

/-- The first of several texts is joined to the others by a slash. -/
theorem join_cons {s : String} {rest : List String} (h : rest ≠ []) :
    join "/" (s :: rest) = s ++ "/" ++ join "/" rest := by
  cases rest with
  | nil => exact absurd rfl h
  | cons t rest => rfl

theorem join_concat {l : List String} (h : l ≠ []) (s : String) :
    join "/" (l ++ [s]) = join "/" l ++ "/" ++ s := by
  induction l with
  | nil => exact absurd rfl h
  | cons t l ih =>
      by_cases hl : l = []
      · rw [hl]
        rfl
      · rw [List.cons_append, join_cons (by simp), join_cons hl, ih hl]
        simp only [String.append_assoc]

/-- **Joining undoes cutting.** -/
theorem join_split (s : String) : join "/" (split '/' s) = s := by
  have h : ∀ cs : List Char, join "/" ((pieces '/' cs).map String.ofList) = String.ofList cs := by
    intro cs
    induction cs with
    | nil => rfl
    | cons c cs ih =>
        obtain ⟨p, ps, hp⟩ := exists_pieces_eq_cons '/' cs
        by_cases hc : c = '/'
        · rw [hc, pieces_cons_sep, List.map_cons, join_cons (by simp [hp]), ih, String.ofList_cons]
          rfl
        · rw [pieces_cons_of_ne hc hp, String.ofList_cons, ← ih, hp]
          cases ps with
          | nil => simp [join, String.ofList_cons]
          | cons q ps => simp [join, String.ofList_cons, String.append_assoc]
  rw [split, h, String.ofList_toList]

/-- **Cutting undoes joining** of segments without slashes. -/
theorem split_join {l : List String} (hne : l ≠ []) (h : ∀ s ∈ l, '/' ∉ s.toList) :
    split '/' (join "/" l) = l := by
  induction l with
  | nil => exact absurd rfl hne
  | cons s l ih =>
      obtain ⟨hs, hl⟩ := List.forall_mem_cons.mp h
      cases l with
      | nil => exact split_eq_singleton hs
      | cons t l =>
          rw [join_cons (by simp), split_append_sep, split_eq_singleton hs, ih (by simp) hl]
          rfl

/-! ### Exchanging characters and trimming -/

/-- A character that was exchanged for another one is gone. -/
theorem notMem_replace {old new : Char} (hne : old ≠ new) (s : String) :
    old ∉ (replace old new s).toList := by
  unfold replace
  rw [String.toList_ofList, List.mem_map]
  rintro ⟨c, -, hc⟩
  split at hc
  · exact hne hc.symm
  · rename_i hold
    exact hold hc

/-- Exchanging two characters brings back no third one. -/
theorem notMem_replace_of_notMem {old new c : Char} (hnew : c ≠ new) {s : String}
    (h : c ∉ s.toList) : c ∉ (replace old new s).toList := by
  unfold replace
  rw [String.toList_ofList, List.mem_map]
  rintro ⟨x, hx, hc⟩
  split at hc
  · exact hnew hc.symm
  · exact h (hc ▸ hx)

/-- To trim a text brings in no characters. -/
theorem mem_of_mem_trimStart {c x : Char} {s : String} (h : x ∈ (trimStart c s).toList) :
    x ∈ s.toList := by
  rw [trimStart, String.toList_ofList] at h
  exact (List.dropWhile_sublist _).subset h

/-- The characters of a segment are characters of the text. -/
theorem mem_of_mem_split {sep c : Char} {s t : String} (ht : t ∈ split sep s) (hc : c ∈ t.toList) :
    c ∈ s.toList := by
  obtain ⟨p, hp, rfl⟩ := List.mem_map.mp ht
  rw [String.toList_ofList] at hc
  exact mem_of_mem_pieces hp hc

/-- Without the separators at its front, a text has the same pieces, but for empty ones. -/
theorem mem_split_trimStart_iff {sep : Char} {s t : String} (ht : t ≠ "") :
    t ∈ split sep (trimStart sep s) ↔ t ∈ split sep s := by
  have hpieces : ∀ cs : List Char,
      t ∈ (pieces sep (cs.dropWhile (· == sep))).map String.ofList ↔
        t ∈ (pieces sep cs).map String.ofList := by
    intro cs
    induction cs with
    | nil => rfl
    | cons c cs ih =>
        by_cases hc : c = sep
        · rw [hc, List.dropWhile_cons_of_pos (by simp), ih, pieces_cons_sep, List.map_cons,
            List.mem_cons]
          exact (or_iff_right ht).symm
        · rw [List.dropWhile_cons_of_neg (by simpa using hc)]
  unfold split trimStart
  rw [String.toList_ofList]
  exact hpieces s.toList

end Text

/-! ### Names of resources -/

namespace ClassFile

/-- The segments of the resource of a class hold no dots but the one in front of the
ending. -/
theorem not_dots_of_mem_split {n s : String} (h : s ∈ Text.split '/' (resourceName n)) :
    s ≠ "." ∧ s ≠ ".." := by
  have hpiece : ∀ {t : String}, t ∈ Text.split '/' (internalName n) → '.' ∉ t.toList :=
    fun ht hdot => Text.notMem_replace (by decide) n (Text.mem_of_mem_split ht hdot)
  obtain ⟨before, last, first, after, hn, hending, hall⟩ :=
    Text.split_append '/' (internalName n) ".class"
  have hclass : Text.split '/' ".class" = [".class"] := by decide
  rw [hclass] at hending
  obtain ⟨rfl, rfl⟩ := List.cons.inj hending
  rw [resourceName, hall] at h
  obtain hs | hs := List.mem_append.mp h
  · -- a segment of the name, which has no dots
    have hdot := hpiece (hn ▸ List.mem_append_left _ hs)
    constructor <;> rintro rfl <;> exact hdot (by decide)
  · -- the last segment, with the ending
    obtain rfl := List.mem_singleton.mp hs
    have hlength : ∀ {t : String}, last ++ ".class" = t → 6 ≤ t.length := by
      rintro t rfl
      rw [String.length_append]
      exact Nat.le_add_left ..
    exact ⟨fun heq => absurd (hlength heq) (by decide), fun heq => absurd (hlength heq) (by decide)⟩

end ClassFile

/-! ### Joined paths -/

namespace Path

/-- The segments of a path in front of those that are joined to it: a slash at its end is not
followed by an empty segment. -/
def trunk (base : String) : List String :=
  if Text.endsWith base "/" then (Text.split '/' base).dropLast else Text.split '/' base

/-- A path is cut into its trunk, with an empty segment behind it if it ends with a slash. -/
theorem split_eq_trunk (base : String) :
    Text.split '/' base = trunk base ∨ Text.split '/' base = trunk base ++ [""] := by
  unfold trunk
  split
  · rename_i hends
    obtain ⟨front, rfl⟩ := Text.exists_of_endsWith_slash hends
    rw [Text.split_append_slash, List.dropLast_concat]
    exact Or.inr rfl
  · exact Or.inl rfl

/-- Only the empty path leaves nothing in front of what is joined to it. -/
theorem trunk_ne_nil {base : String} (h : base ≠ "") : trunk base ≠ [] := by
  intro hnil
  obtain hsplit | hsplit := split_eq_trunk base
  · exact Text.split_ne_nil '/' base (hsplit.trans hnil)
  · rw [hnil] at hsplit
    have hjoin := Text.join_split base
    rw [hsplit] at hjoin
    exact h hjoin.symm

/-- **The segments of a joined path.** -/
theorem split_join {base p : String} (hbase : base ≠ "") (hp : isAbsolute p = false) :
    Text.split '/' (join base p) = trunk base ++ Text.split '/' p := by
  unfold join trunk
  rw [if_neg (by simp [hp, hbase])]
  by_cases hends : Text.endsWith base "/" = true
  · rw [if_pos hends, if_pos hends]
    obtain ⟨front, rfl⟩ := Text.exists_of_endsWith_slash hends
    rw [Text.split_append_sep, Text.split_append_slash, List.dropLast_concat]
  · rw [if_neg hends, if_neg hends, Text.split_append_sep]

/-- Whether a path begins at the root is decided by its front. -/
theorem isAbsolute_append {a b : String} (h : a ≠ "") : isAbsolute (a ++ b) = isAbsolute a := by
  unfold isAbsolute
  rw [String.toList_append]
  rcases ha : a.toList with _ | ⟨c, cs⟩
  · exact absurd (String.toList_eq_nil_iff.mp ha) h
  · rfl

/-- A joined path begins where its first part does, if the second one is relative. -/
theorem isAbsolute_join {base p : String} (hbase : base ≠ "") (hp : isAbsolute p = false) :
    isAbsolute (join base p) = isAbsolute base := by
  unfold join
  rw [if_neg (by simp [hp, hbase])]
  split
  · exact isAbsolute_append hbase
  · rw [String.append_assoc, isAbsolute_append hbase]

/-- **The components of a joined path.** -/
theorem components_join {base p : String} (hbase : base ≠ "") (hp : isAbsolute p = false) :
    components (join base p) = components base ++ names p := by
  have hnames : ((Text.split '/' (join base p)).filter fun s => s != "" && s != ".") =
      ((Text.split '/' base).filter fun s => s != "" && s != ".") ++ names p := by
    rw [split_join hbase hp, List.filter_append, names]
    obtain h | h := split_eq_trunk base
    · rw [h]
    · rw [h, List.filter_append]
      simp
  have hhead : (Text.split '/' (join base p)).head? = (Text.split '/' base).head? := by
    obtain ⟨s, rest, htrunk⟩ := List.exists_cons_of_ne_nil (trunk_ne_nil hbase)
    rw [split_join hbase hp]
    obtain h | h := split_eq_trunk base
    · rw [h, htrunk]
      rfl
    · rw [h, htrunk]
      rfl
  unfold components
  dsimp only
  rw [hnames, hhead, isAbsolute_join hbase hp]
  split
  · rfl
  · split
    · rfl
    · rfl

/-- The components of an absolute path are the root and its names. -/
theorem components_of_isAbsolute {path : String} (h : isAbsolute path = true) :
    components path = root :: names path := if_pos h

/-- A path that is not empty has a component. -/
theorem components_ne_nil {path : String} (h : path ≠ "") : components path ≠ [] := by
  unfold components
  dsimp only
  split
  · exact List.cons_ne_nil _ _
  · rename_i hrelative
    split
    · exact List.cons_ne_nil _ _
    · -- the first segment is not empty: the path would be, or begin with a slash
      rename_i hdot
      obtain ⟨s, rest, hsplit⟩ := List.exists_cons_of_ne_nil (Text.split_ne_nil '/' path)
      have hpath := Text.join_split path
      have hs : s ≠ "" := by
        rintro rfl
        rw [hsplit] at hpath
        cases rest with
        | nil => exact h hpath.symm
        | cons t rest =>
            rw [Text.join_cons (List.cons_ne_nil t rest)] at hpath
            refine hrelative ?_
            rw [← hpath, isAbsolute, String.toList_append, String.toList_append]
            rfl
      rw [hsplit] at hdot ⊢
      rw [List.filter_cons_of_pos (by simpa [hs] using hdot)]
      exact List.cons_ne_nil _ _

/-- A path without empty segments and dots is made of its segments. -/
theorem names_eq_split {p : String} (hplain : ∀ s ∈ Text.split '/' p, s ≠ "" ∧ s ≠ ".") :
    names p = Text.split '/' p := by
  rw [names, List.filter_eq_self]
  intro s hs
  obtain ⟨hempty, hdot⟩ := hplain s hs
  simp [hempty, hdot]

/-- What remains of a joined path below its first part. -/
theorem relativeTo?_join {base p : String} (hbase : base ≠ "") (hp : isAbsolute p = false)
    (hplain : ∀ s ∈ Text.split '/' p, s ≠ "" ∧ s ≠ ".") :
    relativeTo? base (join base p) = some (Text.split '/' p) := by
  unfold relativeTo?
  dsimp only
  rw [components_join hbase hp, names_eq_split hplain,
    if_pos (List.isPrefixOf_iff_prefix.mpr ⟨_, rfl⟩), List.drop_left]

/-! ### Paths below other paths, name by name -/

/-- A name that leads one step down. -/
structure IsName (s : String) : Prop where
  ne_empty : s ≠ ""
  ne_dot : s ≠ "."
  ne_dots : s ≠ ".."
  no_slash : '/' ∉ s.toList

/-- The names of a path that does not climb. -/
theorem isName_of_mem_names {path s : String} (hclimbs : ".." ∉ Text.split '/' path)
    (h : s ∈ names path) : IsName s := by
  obtain ⟨hs, hplain⟩ := List.mem_filter.mp h
  rw [Bool.and_eq_true, bne_iff_ne, bne_iff_ne] at hplain
  exact ⟨hplain.1, hplain.2, fun h => hclimbs (h ▸ hs), Text.sep_notMem_of_mem_split hs⟩

/-- A name does not begin at the root. -/
theorem IsName.relative {s : String} (h : IsName s) : isAbsolute s = false := by
  unfold isAbsolute
  rcases hs : s.toList with _ | ⟨c, cs⟩
  · rfl
  · have hslash := h.no_slash
    rw [hs, List.mem_cons, not_or] at hslash
    simpa using fun heq => hslash.1 heq.symm

/-- A path that ends with a name ends with no slash. -/
theorem IsName.not_endsWith {s : String} (h : IsName s) (base : String) :
    Text.endsWith (base ++ s) "/" = false := by
  rw [Bool.eq_false_iff]
  intro hends
  obtain ⟨cs, hcs⟩ := List.isSuffixOf_iff_suffix.mp hends
  have hne : s.toList ≠ [] := fun hnil => h.ne_empty (String.toList_eq_nil_iff.mp hnil)
  have hlast := congrArg List.getLast? hcs
  have hslash : "/".toList = ['/'] := by decide
  rw [String.toList_append, hslash, List.getLast?_concat, List.getLast?_append_of_ne_nil _ hne]
    at hlast
  exact h.no_slash (List.mem_of_getLast? hlast.symm)

/-- Names with slashes between them are a relative path. -/
theorem relative_join_names {l : List String} (h : ∀ s ∈ l, IsName s) :
    isAbsolute (Text.join "/" l) = false := by
  cases l with
  | nil => rfl
  | cons s l =>
      obtain ⟨hs, -⟩ := List.forall_mem_cons.mp h
      cases l with
      | nil => exact hs.relative
      | cons t l =>
          rw [Text.join_cons (by simp), String.append_assoc, isAbsolute_append hs.ne_empty]
          exact hs.relative

/-- What stands in front of the last slash of a relative path is relative. -/
theorem relative_join_dropLast {p : String} (h : isAbsolute p = false) :
    isAbsolute (Text.join "/" (Text.split '/' p).dropLast) = false := by
  by_cases hempty : Text.join "/" (Text.split '/' p).dropLast = ""
  · rw [hempty]
    rfl
  · have hne : (Text.split '/' p).dropLast ≠ [] := fun hnil => hempty (by rw [hnil]; rfl)
    have hp := Text.join_split p
    rw [← List.dropLast_concat_getLast (Text.split_ne_nil '/' p), Text.join_concat hne,
      String.append_assoc] at hp
    rw [← hp, isAbsolute_append hempty] at h
    exact h

/-- Joining puts something in front of a relative path. -/
theorem exists_join_eq (base : String) :
    ∃ front, ∀ p, isAbsolute p = false → join base p = front ++ p := by
  unfold join
  by_cases hempty : base = ""
  · exact ⟨"", fun p _ => by simp [hempty]⟩
  · by_cases hends : Text.endsWith base "/" = true
    · exact ⟨base, fun p hp => by simp [hp, hempty, hends]⟩
    · exact ⟨base ++ "/", fun p hp => by simp [hp, hempty, hends]⟩

/-- A path to a name is never the empty one. -/
theorem join_ne_empty (base : String) {s : String} (hs : IsName s) : join base s ≠ "" := by
  obtain ⟨front, hfront⟩ := exists_join_eq base
  rw [hfront s hs.relative]
  exact fun h => hs.ne_empty (String.append_eq_empty_iff.mp h).2

@[simp] theorem empty_join (p : String) : join "" p = p := by simp [join]

/-- To join an absolute path leaves out what it is joined to. -/
theorem join_of_isAbsolute (base : String) {p : String} (hp : isAbsolute p = true) :
    join base p = p := by
  rw [join, if_pos (by simp [hp])]

/-- To any other path a relative one is joined with a slash, unless there is one already. -/
theorem join_eq {base p : String} (hbase : base ≠ "") (hp : isAbsolute p = false) :
    join base p = if Text.endsWith base "/" then base ++ p else base ++ "/" ++ p := by
  rw [join, if_neg (by simp [hp, hbase])]

/-- Relative paths are joined to a relative path. -/
theorem relative_join {p q : String} (hp : isAbsolute p = false) (hq : isAbsolute q = false) :
    isAbsolute (join p q) = false := by
  by_cases hempty : p = ""
  · rwa [hempty, empty_join]
  · rwa [isAbsolute_join hempty hq]

/-- What is joined from paths that do not climb does not climb. -/
theorem up_notMem_join {p q : String} (hq : isAbsolute q = false)
    (hupp : ".." ∉ Text.split '/' p) (hupq : ".." ∉ Text.split '/' q) :
    ".." ∉ Text.split '/' (join p q) := by
  by_cases hempty : p = ""
  · rwa [hempty, empty_join]
  · rw [split_join hempty hq, List.mem_append, not_or]
    refine ⟨fun hup => hupp ?_, hupq⟩
    obtain hsplit | hsplit := split_eq_trunk p
    · rwa [hsplit]
    · rw [hsplit]
      exact List.mem_append_left _ hup

/-- **A path below a path below another one.** -/
theorem join_assoc (base : String) {p q : String} (hp : isAbsolute p = false)
    (hq : isAbsolute q = false) : join (join base p) q = join base (join p q) := by
  by_cases hbase : base = ""
  · rw [hbase, empty_join, empty_join]
  by_cases hempty : p = ""
  · -- joining the empty path may leave a slash at the end, after which none is added
    have hends : Text.endsWith (base ++ "/") "/" = true := by
      rw [Text.endsWith_append base (by decide)]
      decide
    rw [hempty, empty_join, join_eq hbase (by decide), String.append_empty, String.append_empty]
    split
    · rfl
    · rename_i hnot
      rw [join_eq (by simp) hq, if_pos hends, join_eq hbase hq, if_neg hnot]
  · obtain ⟨front, hfront⟩ := exists_join_eq base
    have hne : front ++ p ≠ "" := fun h => hempty (String.append_eq_empty_iff.mp h).2
    rw [hfront p hp, hfront _ (relative_join hp hq), join_eq hne hq, join_eq hempty hq,
      Text.endsWith_append front hempty]
    split
    · rw [String.append_assoc]
    · simp only [String.append_assoc]

/-- A path below a name below another path is a path below that one, as many slashes as it takes.
-/
theorem join_join {base s p : String} (hs : IsName s) (hp : isAbsolute p = false) :
    join (join base s) p = join base (s ++ "/" ++ p) := by
  have hends : Text.endsWith s "/" = false := by simpa using hs.not_endsWith ""
  rw [join_assoc base hs.relative hp, join_eq hs.ne_empty hp, if_neg (by simp [hends])]

/-- A path below another one, name by name. -/
theorem foldl_join {base : String} {l : List String} (hne : l ≠ []) (h : ∀ s ∈ l, IsName s) :
    l.foldl join base = join base (Text.join "/" l) := by
  induction l generalizing base with
  | nil => exact absurd rfl hne
  | cons s l ih =>
      obtain ⟨hs, hl⟩ := List.forall_mem_cons.mp h
      cases l with
      | nil => rfl
      | cons t l =>
          rw [List.foldl_cons, ih (by simp) hl, join_join hs (relative_join_names hl)]
          rfl

/-- To go down along names leads from a path to one that is not empty either. -/
theorem foldl_join_ne_empty {base : String} {l : List String} (hbase : base ≠ "")
    (h : ∀ s ∈ l, IsName s) : l.foldl join base ≠ "" := by
  induction l generalizing base with
  | nil => exact hbase
  | cons s l ih =>
      obtain ⟨hs, hl⟩ := List.forall_mem_cons.mp h
      exact ih (join_ne_empty base hs) hl

/-- The components of a path that leads on along names. -/
theorem components_foldl_join {base : String} (hbase : base ≠ "") {l : List String}
    (h : ∀ s ∈ l, IsName s) : components (l.foldl join base) = components base ++ l := by
  by_cases hnil : l = []
  · rw [hnil, List.foldl_nil, List.append_nil]
  · have hsplit := Text.split_join hnil fun s hs => (h s hs).no_slash
    rw [foldl_join hnil h, components_join hbase (relative_join_names h), names_eq_split, hsplit]
    intro s hs
    rw [hsplit] at hs
    exact ⟨(h s hs).ne_empty, (h s hs).ne_dot⟩

/-- A joined path, name by name. -/
theorem join_eq_foldl {base p : String} (h : ∀ s ∈ Text.split '/' p, IsName s) :
    join base p = (Text.split '/' p).foldl join base := by
  rw [foldl_join (Text.split_ne_nil '/' p) h, Text.join_split]

end Path

end Classpath
