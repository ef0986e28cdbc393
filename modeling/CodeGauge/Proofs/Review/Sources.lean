import CodeGauge.Proofs.Review.Tree
import Mathlib.Data.List.TakeWhile
import Mathlib.Data.String.Basic

/-!
This module contains which files the search of a directory finds, and in which order: the source
files below it that lie in no directory to be skipped, in the lexicographic order of the names that
lead to them. The order in which directories list their entries makes no difference.
-/

namespace CodeGauge.Tree

variable {path p rest : Path} {name : String} {bytes : Option (List UInt8)} {tree tree' below : Tree}
  {entries : List (String × Tree)}


/--
Induction on a tree, where a directory has the hypothesis for each of its entries.
-/
@[elab_as_elim]
theorem induction {motive : Tree → Prop} (file : ∀ bytes, motive (.file bytes))
    (dir : ∀ entries, (∀ entry ∈ entries, motive entry.2) → motive (.dir entries))
    (closed : motive .closed) (tree : Tree) : motive tree := by
  match tree with
  | .file bytes => exact file bytes
  | .closed => exact closed
  | .dir entries =>
    apply dir
    intro entry hentry
    exact induction file dir closed entry.2
termination_by sizeOf tree
decreasing_by
  have hlt := List.sizeOf_lt_of_mem hentry
  cases entry
  rw [Prod.mk.sizeOf_spec] at hlt
  rw [Tree.dir.sizeOf_spec]
  dsimp only
  omega

/--
A path that leads to a file in a tree, which may be one that cannot be read. That of a tree which is
a file has no names.
-/
inductive HoldsFile : Tree → Path → Prop
  | file (bytes : Option (List UInt8)) : HoldsFile (.file bytes) []
  | dir {entries : List (String × Tree)} {name : String} {tree : Tree} {path : Path}
    (hentry : (name, tree) ∈ entries) (hfile : HoldsFile tree path) :
    HoldsFile (.dir entries) (name :: path)

/--
Whether a name ends in one of the endings of source files, in any letter case, from its last dot on.
There has to be something in front of this dot.
-/
def HasSourceSuffix (name : String) : Prop :=
  ∃ stem ending, stem ≠ [] ∧ name.toList = stem ++ '.' :: ending ∧ '.' ∉ ending
    ∧ Text.lower (.ofList ('.' :: ending)) ∈ sourceSuffixes

/--
Two trees that are the same but for the order of the entries in their directories.
-/
inductive Reordered : Tree → Tree → Prop
  | file (bytes : Option (List UInt8)) : Reordered (.file bytes) (.file bytes)
  | dir {entries entries' : List (String × Tree)}
    (hnames : (entries.map Prod.fst).Perm (entries'.map Prod.fst))
    (htrees : ∀ name tree tree', (name, tree) ∈ entries → (name, tree') ∈ entries' →
      Reordered tree tree') :
    Reordered (.dir entries) (.dir entries')
  | closed : Reordered .closed .closed

theorem suffix_of_eq_append {stem ending : List Char} (h : name.toList = stem ++ '.' :: ending)
    (hdot : '.' ∉ ending) :
    suffix name = if stem = [] ∨ ending = [] then [] else '.' :: ending := by
  have hall : ∀ c ∈ ending.reverse, (c != '.') = true := by
    intro c hc
    rw [bne_iff_ne]
    rintro rfl
    exact hdot (List.mem_reverse.1 hc)
  have hreverse : name.toList.reverse = ending.reverse ++ '.' :: stem.reverse := by
    simp [h]
  unfold suffix
  dsimp only
  rw [hreverse, List.takeWhile_append_of_pos hall, List.dropWhile_append_of_pos hall]
  cases hstem : stem.reverse with
  | nil => simp [List.reverse_eq_nil_iff.1 hstem]
  | cons c cs =>
    have hne : stem ≠ [] := by
      rintro rfl
      cases hstem
    simp [hne]

theorem suffix_of_notMem (h : '.' ∉ name.toList) : suffix name = [] := by
  have hall : ∀ c ∈ name.toList.reverse, (c != '.') = true := by
    intro c hc
    rw [bne_iff_ne]
    rintro rfl
    exact h (List.mem_reverse.1 hc)
  unfold suffix
  dsimp only
  rw [List.dropWhile_eq_nil_iff.2 hall]

theorem exists_last_dot (h : '.' ∈ name.toList) :
    ∃ stem ending, name.toList = stem ++ '.' :: ending ∧ '.' ∉ ending := by
  obtain ⟨as, bs, heq, hdot⟩ := List.eq_append_cons_of_mem (List.mem_reverse.2 h)
  refine ⟨bs.reverse, as.reverse, ?_, mt List.mem_reverse.1 hdot⟩
  rw [← List.reverse_reverse name.toList, heq]
  simp

theorem isSource_iff : isSource name ↔ HasSourceSuffix name := by
  unfold isSource
  rw [List.contains_iff_mem]
  constructor
  . intro h
    have hsuffix : suffix name ≠ [] := by
      intro hnil
      rw [hnil] at h
      exact absurd h (by decide)
    obtain ⟨stem, ending, heq, hdot⟩ := exists_last_dot (not_imp_comm.1 suffix_of_notMem hsuffix)
    rw [suffix_of_eq_append heq hdot] at h hsuffix
    have hne : ¬ (stem = [] ∨ ending = []) := fun hor => hsuffix (if_pos hor)
    rw [if_neg hne] at h
    exact ⟨stem, ending, (not_or.1 hne).1, heq, hdot, h⟩
  . rintro ⟨stem, ending, hstem, heq, hdot, h⟩
    have hending : ending ≠ [] := by
      rintro rfl
      exact absurd h (by decide)
    rwa [suffix_of_eq_append heq hdot, if_neg (not_or.2 ⟨hstem, hending⟩)]

/--
Whether a path leads to a source file through no directory that is skipped.
-/
def IsSourcePath (path : Path) : Prop :=
  ∃ dirs name, path = dirs ++ [name] ∧ (∀ dir ∈ dirs, dir ∉ skippedNames) ∧ HasSourceSuffix name

theorem not_isSourcePath_nil : ¬ IsSourcePath [] := by
  rintro ⟨dirs, name, h, _⟩
  simp at h

theorem isSourcePath_cons_iff :
    IsSourcePath (name :: rest)
      ↔
    rest = [] ∧ HasSourceSuffix name ∨ name ∉ skippedNames ∧ IsSourcePath rest := by
  constructor
  . rintro ⟨dirs, last, heq, hdirs, hlast⟩
    cases dirs with
    | nil =>
      obtain ⟨rfl, rfl⟩ := List.cons.inj heq
      exact .inl ⟨rfl, hlast⟩
    | cons dir dirs =>
      obtain ⟨rfl, rfl⟩ := List.cons.inj heq
      rw [List.forall_mem_cons] at hdirs
      exact .inr ⟨hdirs.1, dirs, last, rfl, hdirs.2, hlast⟩
  . rintro (⟨rfl, hname⟩ | ⟨hname, dirs, last, rfl, hdirs, hlast⟩)
    . exact ⟨[], name, rfl, List.forall_mem_nil _, hname⟩
    . exact ⟨name :: dirs, last, rfl, List.forall_mem_cons.2 ⟨hname, hdirs⟩, hlast⟩

theorem holdsFile_file_iff : (file bytes).HoldsFile rest ↔ rest = [] := by
  constructor
  . rintro ⟨⟩
    rfl
  . rintro rfl
    exact .file bytes

theorem holdsFile_cons_iff :
    (dir entries).HoldsFile (name :: rest) ↔ ∃ tree, (name, tree) ∈ entries ∧ tree.HoldsFile rest := by
  constructor
  . intro h
    cases h with
    | dir hentry hfile => exact ⟨_, hentry, hfile⟩
  . rintro ⟨tree, hentry, hfile⟩
    exact .dir hentry hfile

theorem ne_nil_of_holdsFile (h : (dir entries).HoldsFile rest) : rest ≠ [] := by
  cases h
  exact List.cons_ne_nil _ _

theorem map_fst_sourcesOf (path : Path) (entries : List (String × Tree)) :
    (sourcesOf path entries).map Prod.fst = entries.map Prod.fst := by
  induction entries with
  | nil => rfl
  | cons entry entries ih => rw [sourcesOf, List.map_cons, List.map_cons, ih]

theorem sourcesOf_eq_map (path : Path) (entries : List (String × Tree)) :
    sourcesOf path entries = entries.map fun entry => (entry.1, sourcesAt path entry.1 entry.2) := by
  induction entries with
  | nil => rfl
  | cons entry entries ih => rw [sourcesOf, ih, List.map_cons]

theorem sourcesAt_dir (path : Path) (name : String) (entries : List (String × Tree)) :
    sourcesAt path name (.dir entries)
      =
    if name ∈ skippedNames then [] else (dir entries).sources (path ++ [name]) := by
  rw [sourcesAt, sources]
  simp only [List.contains_iff_mem]

theorem mem_inOrder {α : Type} {x : α} {lists : List (String × List α)} :
    x ∈ inOrder lists ↔ ∃ list ∈ lists, x ∈ list.2 := by
  simp only [inOrder, List.mem_flatMap, List.mem_mergeSort]

theorem mem_sources_dir_iff :
    p ∈ (dir entries).sources path ↔ ∃ entry ∈ entries, p ∈ sourcesAt path entry.1 entry.2 := by
  rw [sources, mem_inOrder, sourcesOf_eq_map]
  simp

theorem mem_sourcesAt_iff (tree : Tree) (path : Path) (name : String)
    (h : ∀ path p, p ∈ tree.sources path
      ↔ ∃ rest, p = path ++ rest ∧ tree.HoldsFile rest ∧ IsSourcePath rest) :
    p ∈ sourcesAt path name tree
      ↔ ∃ rest, p = path ++ name :: rest ∧ tree.HoldsFile rest ∧ IsSourcePath (name :: rest) := by
  cases tree with
  | file bytes =>
    unfold sourcesAt
    constructor
    . intro hp
      split at hp
      . next hname =>
        exact ⟨[], List.mem_singleton.1 hp, .file bytes,
          isSourcePath_cons_iff.2 (.inl ⟨rfl, isSource_iff.1 hname⟩)⟩
      . cases hp
    . rintro ⟨rest, rfl, hfile, hpath⟩
      obtain rfl := holdsFile_file_iff.1 hfile
      obtain ⟨_, hname⟩ | ⟨_, hnil⟩ := isSourcePath_cons_iff.1 hpath
      . rw [if_pos (isSource_iff.2 hname)]
        exact List.mem_singleton_self _
      . exact (not_isSourcePath_nil hnil).elim
  | dir entries =>
    rw [sourcesAt_dir]
    constructor
    . intro hp
      split at hp
      . cases hp
      . next hname =>
        obtain ⟨rest, rfl, hfile, hpath⟩ := (h _ _).1 hp
        exact ⟨rest, by simp, hfile, isSourcePath_cons_iff.2 (.inr ⟨hname, hpath⟩)⟩
    . rintro ⟨rest, rfl, hfile, hpath⟩
      obtain ⟨hnil, _⟩ | ⟨hname, hpath⟩ := isSourcePath_cons_iff.1 hpath
      . exact (ne_nil_of_holdsFile hfile hnil).elim
      . rw [if_neg hname, h]
        exact ⟨rest, by simp, hfile, hpath⟩
  | closed =>
    unfold sourcesAt
    constructor
    . intro hp
      cases hp
    . rintro ⟨_, _, hfile, _⟩
      cases hfile

/--
The search finds what the paths of sources lead to. By induction on the tree, one directory deeper
each time.
-/
theorem mem_sources_iff (tree : Tree) (path p : Path) :
    p ∈ tree.sources path
      ↔ ∃ rest, p = path ++ rest ∧ tree.HoldsFile rest ∧ IsSourcePath rest := by
  induction tree using Tree.induction generalizing path p with
  | file bytes =>
    constructor
    . intro h
      cases h
    . rintro ⟨rest, _, hfile, hpath⟩
      rw [holdsFile_file_iff] at hfile
      subst hfile
      exact (not_isSourcePath_nil hpath).elim
  | dir entries ih =>
    rw [mem_sources_dir_iff]
    constructor
    . rintro ⟨⟨name, tree⟩, hentry, hp⟩
      obtain ⟨rest, rfl, hfile, hpath⟩ := (mem_sourcesAt_iff tree path name (ih _ hentry)).1 hp
      exact ⟨name :: rest, rfl, .dir hentry hfile, hpath⟩
    . rintro ⟨rest, rfl, hfile, hpath⟩
      cases hfile with
      | dir hentry hfile =>
        exact ⟨_, hentry, (mem_sourcesAt_iff _ path _ (ih _ hentry)).2 ⟨_, rfl, hfile, hpath⟩⟩
  | closed =>
    constructor
    . intro h
      cases h
    . rintro ⟨_, _, hfile, _⟩
      cases hfile

theorem pairwise_lt_mergeSort {α : Type} {lists : List (String × List α)}
    (h : (lists.map Prod.fst).Nodup) :
    (lists.mergeSort fun a b => decide (a.1 ≤ b.1)).Pairwise fun a b => a.1 < b.1 := by
  have hsorted : (lists.mergeSort fun a b => decide (a.1 ≤ b.1)).Pairwise fun a b => a.1 ≤ b.1 := by
    have hle : ∀ a b : String × List α, (decide (a.1 ≤ b.1) || decide (b.1 ≤ a.1)) = true := by
      intro a b
      simpa using le_total a.1 b.1
    have htrans : ∀ a b c : String × List α, decide (a.1 ≤ b.1) = true → decide (b.1 ≤ c.1) = true →
        decide (a.1 ≤ c.1) = true := by
      intro a b c
      simpa using le_trans
    exact (List.pairwise_mergeSort htrans hle lists).imp of_decide_eq_true
  have hne : (lists.mergeSort fun a b => decide (a.1 ≤ b.1)).Pairwise fun a b => a.1 ≠ b.1 := by
    rw [← List.pairwise_map]
    exact ((List.mergeSort_perm lists _).map Prod.fst).nodup_iff.2 h
  exact (hsorted.and hne).imp fun h => lt_of_le_of_ne h.1 h.2

theorem append_cons_lt (path rest rest' : Path) {name name' : String} (h : name < name') :
    path ++ name :: rest < path ++ name' :: rest' := by
  apply List.append_left_lt
  rw [List.cons_lt_cons_iff]
  exact .inl h

theorem pairwise_inOrder {lists : List (String × List Path)} (h : (lists.map Prod.fst).Nodup)
    (heach : ∀ list ∈ lists, list.2.Pairwise (· < ·))
    (hpaths : ∀ list ∈ lists, ∀ p ∈ list.2, ∃ rest, p = path ++ list.1 :: rest) :
    (inOrder lists).Pairwise (· < ·) := by
  unfold inOrder
  rw [List.pairwise_flatMap]
  constructor
  . intro list hlist
    exact heach list (List.mem_mergeSort.1 hlist)
  . apply (pairwise_lt_mergeSort h).imp_of_mem
    intro a b ha hb hlt p hp q hq
    obtain ⟨rest, rfl⟩ := hpaths a (List.mem_mergeSort.1 ha) p hp
    obtain ⟨rest', rfl⟩ := hpaths b (List.mem_mergeSort.1 hb) q hq
    exact append_cons_lt path rest rest' hlt

theorem pairwise_sourcesAt (tree : Tree) (path : Path) (name : String)
    (h : ∀ path, (tree.sources path).Pairwise (· < ·)) :
    (sourcesAt path name tree).Pairwise (· < ·) := by
  cases tree with
  | file bytes =>
    unfold sourcesAt
    split
    . exact List.pairwise_singleton _ _
    . exact List.Pairwise.nil
  | dir entries =>
    rw [sourcesAt_dir]
    split
    . exact List.Pairwise.nil
    . apply h
  | closed => exact List.Pairwise.nil

/--
The files found are in the lexicographic order of the names that lead to them.
-/
theorem pairwise_sources (tree : Tree) (path : Path) (h : tree.WellNamed) :
    (tree.sources path).Pairwise (· < ·) := by
  induction tree using Tree.induction generalizing path with
  | file bytes => exact List.Pairwise.nil
  | dir entries ih =>
    rw [wellNamed_dir_iff, entriesWellNamed_iff] at h
    rw [sources]
    apply pairwise_inOrder
    . rw [map_fst_sourcesOf]
      exact h.1
    . rw [sourcesOf_eq_map, List.forall_mem_map]
      intro entry hentry
      apply pairwise_sourcesAt
      intro path
      exact ih entry hentry path (h.2 entry hentry).2
    . rw [sourcesOf_eq_map, List.forall_mem_map]
      intro entry hentry p hp
      obtain ⟨rest, heq, _⟩ := (mem_sourcesAt_iff _ _ _ (mem_sources_iff entry.2)).1 hp
      exact ⟨rest, heq⟩
  | closed => exact List.Pairwise.nil

theorem Reordered.symm (h : Reordered tree tree') : Reordered tree' tree := by
  induction h with
  | file bytes => exact .file bytes
  | dir hnames _ ih =>
    exact .dir hnames.symm fun name tree' tree htree' htree => ih name tree tree' htree htree'
  | closed => exact .closed

theorem exists_of_perm {entries' : List (String × Tree)}
    (hnames : (entries.map Prod.fst).Perm (entries'.map Prod.fst)) (h : (name, tree) ∈ entries) :
    ∃ tree', (name, tree') ∈ entries' := by
  have hmem := hnames.mem_iff.1 (List.mem_map_of_mem h)
  simpa using hmem

theorem HoldsFile.reordered (h : Reordered tree tree') (hfile : tree.HoldsFile path) :
    tree'.HoldsFile path := by
  induction h generalizing path with
  | file bytes => exact hfile
  | dir hnames _ ih =>
    cases hfile with
    | dir hentry hfile =>
      obtain ⟨tree', hentry'⟩ := exists_of_perm hnames hentry
      exact .dir hentry' (ih _ _ _ hentry hentry' hfile)
  | closed => exact hfile

theorem wellNamed_reordered (h : Reordered tree tree') (htree : tree.WellNamed) :
    tree'.WellNamed := by
  induction h with
  | file bytes => exact htree
  | dir hnames _ ih =>
    rw [wellNamed_dir_iff, entriesWellNamed_iff] at htree ⊢
    refine ⟨hnames.nodup_iff.1 htree.1, ?_⟩
    rintro ⟨name, tree'⟩ hentry'
    obtain ⟨tree, hentry⟩ := exists_of_perm hnames.symm hentry'
    have hnamed := htree.2 _ hentry
    exact ⟨hnamed.1, ih _ _ _ hentry hentry' hnamed.2⟩
  | closed => exact htree

/--
Increasing lists with the same members are equal.
-/
theorem eq_of_pairwise_of_mem_iff {xs ys : List Path} (hxs : xs.Pairwise (· < ·))
    (hys : ys.Pairwise (· < ·)) (h : ∀ p, p ∈ xs ↔ p ∈ ys) : xs = ys := by
  apply List.Perm.eq_of_pairwise _ hxs hys
  . rw [List.perm_ext_iff_of_nodup (hxs.imp ne_of_lt) (hys.imp ne_of_lt)]
    exact h
  . intro p q _ _ hpq hqp
    exact (lt_asymm hpq hqp).elim

theorem sources_reordered (path : Path) (h : tree.WellNamed) (hsame : Reordered tree tree') :
    tree'.sources path = tree.sources path := by
  apply eq_of_pairwise_of_mem_iff
  . exact pairwise_sources tree' path (wellNamed_reordered hsame h)
  . exact pairwise_sources tree path h
  . intro p
    rw [mem_sources_iff, mem_sources_iff]
    apply exists_congr
    intro rest
    have hfile : tree'.HoldsFile rest ↔ tree.HoldsFile rest :=
      ⟨HoldsFile.reordered hsame.symm, HoldsFile.reordered hsame⟩
    rw [hfile]

theorem nodup_sources (path : Path) (h : tree.WellNamed) : (tree.sources path).Nodup := by
  apply (pairwise_sources tree path h).imp
  exact ne_of_lt

theorem isPathName_of_holdsFile (h : tree.WellNamed) (hfile : tree.HoldsFile rest) :
    ∀ name ∈ rest, IsPathName name := by
  induction hfile with
  | file bytes => exact List.forall_mem_nil _
  | dir hentry _ ih =>
    rw [wellNamed_dir_iff, entriesWellNamed_iff] at h
    have hnamed := h.2 _ hentry
    exact List.forall_mem_cons.2 ⟨hnamed.1, ih hnamed.2⟩

theorem exists_of_mem_sources (h : tree.WellNamed) (hp : p ∈ tree.sources path) :
    ∃ rest, p = path ++ rest ∧ rest ≠ [] ∧ ∀ name ∈ rest, IsPathName name := by
  obtain ⟨rest, heq, hfile, hpath⟩ := (mem_sources_iff tree path p).1 hp
  refine ⟨rest, heq, ?_, isPathName_of_holdsFile h hfile⟩
  rintro rfl
  exact not_isSourcePath_nil hpath

/--
The source files below a directory of a tree differ in their written paths.
-/
theorem nodup_map_text_sources (h : tree.WellNamed) (hat : tree.at? path = some below) :
    ((below.sources path).map Path.text).Nodup := by
  obtain ⟨hbelow, hpath⟩ := wellNamed_of_follow h (List.forall_mem_nil _) hat
  have hnames : ∀ p ∈ below.sources path, p ≠ [] ∧ ∀ name ∈ p, IsPathName name := by
    intro p hp
    obtain ⟨rest, rfl, hne, hrest⟩ := exists_of_mem_sources hbelow hp
    exact ⟨List.append_ne_nil_of_right_ne_nil _ hne, List.forall_mem_append.2 ⟨hpath, hrest⟩⟩
  apply List.Nodup.map_on _ (nodup_sources path hbelow)
  intro p hp q hq htext
  exact Path.eq_of_text_eq (hnames p hp).1 (hnames q hq).1 (hnames p hp).2 (hnames q hq).2 htext

/--
In a tree that is named as in a file system, the search of a directory finds each file below it
once that has the name of a source and lies in no directory that is skipped, and it finds nothing
else. The files are in the lexicographic order of the names that lead to them, whatever the order in
which the directories list their entries.
-/
theorem sources_spec (path : Path) (h : tree.WellNamed) :
    (∀ p, p ∈ tree.sources path
        ↔ ∃ dirs name, p = path ++ (dirs ++ [name]) ∧ tree.HoldsFile (dirs ++ [name])
          ∧ (∀ dir ∈ dirs, dir ∉ skippedNames) ∧ HasSourceSuffix name)
      ∧ (tree.sources path).Nodup
      ∧ (tree.sources path).Pairwise (· < ·)
      ∧ ∀ tree', Reordered tree tree' → tree'.sources path = tree.sources path := by
  refine ⟨?_, nodup_sources path h, pairwise_sources tree path h, ?_⟩
  . intro p
    rw [mem_sources_iff]
    constructor
    . rintro ⟨_, rfl, hfile, dirs, name, rfl, hpath⟩
      exact ⟨dirs, name, rfl, hfile, hpath⟩
    . rintro ⟨dirs, name, rfl, hfile, hpath⟩
      exact ⟨_, rfl, hfile, dirs, name, rfl, hpath⟩
  . intro tree'
    exact sources_reordered path h

/--
Directories and files in no order, a directory with the name of a source, one that is skipped, one
that is closed, and a file that cannot be read.
-/
def mixedTree : Tree :=
  .dir [
    ("b.py", .file none),
    ("a.js", .file (some [])),
    ("a", .dir [("x.PY", .file (some [])), (".py", .file (some []))]),
    ("build", .dir [("c.py", .file (some []))]),
    ("c", .closed),
    ("d.ts", .dir [("e.test.tsx", .file (some []))])]

theorem sources_spec_mixed :
    mixedTree.WellNamed ∧ ["d.ts", "e.test.tsx"] ∈ mixedTree.sources []
      ∧ ["b.py"] ∈ mixedTree.sources [] ∧ ["build", "c.py"] ∉ mixedTree.sources [] := by
  have h : mixedTree.WellNamed := by decide
  obtain ⟨hmem, _⟩ := sources_spec [] h
  refine ⟨h, ?_, ?_, ?_⟩
  . rw [hmem]
    refine ⟨["d.ts"], "e.test.tsx", rfl, ?_, by decide, isSource_iff.1 (by decide)⟩
    simp [mixedTree, holdsFile_cons_iff, holdsFile_file_iff]
  . rw [hmem]
    refine ⟨[], "b.py", rfl, ?_, by decide, isSource_iff.1 (by decide)⟩
    simp [mixedTree, holdsFile_cons_iff, holdsFile_file_iff]
  . rw [hmem]
    rintro ⟨dirs, name, heq, _, hdirs, _⟩
    have hparts : ["build"] ++ ["c.py"] = dirs ++ [name] := heq
    obtain ⟨rfl, _⟩ := List.append_inj' hparts rfl
    exact absurd hdirs (by decide)

end CodeGauge.Tree
