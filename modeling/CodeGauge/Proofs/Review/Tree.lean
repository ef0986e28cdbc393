import CodeGauge.Proofs.Text.Parts
import CodeGauge.Review.Recording
import Mathlib.Data.List.Nodup

/-!
This module contains trees whose entries are named as those of a file system. They stay so when
files are put into them, and a path of such names can be told from its text.
-/

namespace CodeGauge

/--
Whether a name may stand between the slashes of a path.
-/
def IsPathName (name : String) : Prop :=
  '/' ∉ name.toList

instance (name : String) : Decidable (IsPathName name) :=
  inferInstanceAs (Decidable ('/' ∉ name.toList))

namespace Path

variable {p q : Path} {name : String}


theorem toList_text (h : p ≠ []) : p.text.toList = ['/'].intercalate (p.map String.toList) := by
  cases p with
  | nil => exact (h rfl).elim
  | cons name p => exact String.toList_intercalate

theorem splitOn_text (h : p ≠ []) (hnames : ∀ name ∈ p, IsPathName name) :
    p.text.toList.splitOn '/' = p.map String.toList := by
  rw [toList_text h]
  apply List.splitOn_intercalate
  . simpa [IsPathName] using hnames
  . simpa using h

/--
A path can be told from its text.
-/
theorem eq_of_text_eq (hp : p ≠ []) (hq : q ≠ []) (hpnames : ∀ name ∈ p, IsPathName name)
    (hqnames : ∀ name ∈ q, IsPathName name) (h : p.text = q.text) : p = q := by
  apply List.map_injective_iff.2 fun _ _ => String.toList_inj.1
  rw [← splitOn_text hp hpnames, ← splitOn_text hq hqnames, h]

theorem isPathName_of_mem_parts {s : String} (h : name ∈ parts s) : IsPathName name := by
  obtain ⟨part, hpart, rfl⟩ := List.mem_map.1 (List.mem_filter.1 h).1
  unfold IsPathName
  rw [String.toList_ofList]
  exact Text.not_mem_of_mem_splitOn hpart

end Path

namespace Tree

mutual

/--
Whether the entries of each directory in a tree differ in their names, which stand between slashes.
-/
def WellNamed : Tree → Prop
  | .file _ => True
  | .dir entries => (entries.map Prod.fst).Nodup ∧ EntriesWellNamed entries
  | .closed => True

def EntriesWellNamed : List (String × Tree) → Prop
  | [] => True
  | (name, tree) :: entries => IsPathName name ∧ tree.WellNamed ∧ EntriesWellNamed entries

end

variable {path p : Path} {name : String} {tree below : Tree} {entries : List (String × Tree)}

@[simp]
theorem wellNamed_dir_iff :
    (dir entries).WellNamed ↔ (entries.map Prod.fst).Nodup ∧ EntriesWellNamed entries := by
  rw [WellNamed]

@[simp]
theorem entriesWellNamed_cons_iff :
    EntriesWellNamed ((name, tree) :: entries)
      ↔
    IsPathName name ∧ tree.WellNamed ∧ EntriesWellNamed entries := by
  rw [EntriesWellNamed]

theorem entriesWellNamed_iff :
    EntriesWellNamed entries ↔ ∀ entry ∈ entries, IsPathName entry.1 ∧ entry.2.WellNamed := by
  induction entries with
  | nil => simp [EntriesWellNamed]
  | cons entry entries ih => rw [entriesWellNamed_cons_iff, ih, List.forall_mem_cons, and_assoc]

mutual

def decideWellNamed : (tree : Tree) → Decidable tree.WellNamed
  | .file _ => decidable_of_iff True (by rw [WellNamed])
  | .dir entries =>
    have := decideEntriesWellNamed entries
    decidable_of_iff _ wellNamed_dir_iff.symm
  | .closed => decidable_of_iff True (by rw [WellNamed])

def decideEntriesWellNamed :
    (entries : List (String × Tree)) → Decidable (EntriesWellNamed entries)
  | [] => decidable_of_iff True (by rw [EntriesWellNamed])
  | (_, tree) :: entries =>
    have := decideWellNamed tree
    have := decideEntriesWellNamed entries
    decidable_of_iff _ entriesWellNamed_cons_iff.symm

end

instance (tree : Tree) : Decidable tree.WellNamed :=
  decideWellNamed tree

theorem wellNamed_of_lookup (h : EntriesWellNamed entries) (hlookup : entries.lookup name = some below) :
    IsPathName name ∧ below.WellNamed := by
  induction entries with
  | nil => cases hlookup
  | cons entry entries ih =>
    obtain ⟨n, tree⟩ := entry
    rw [entriesWellNamed_cons_iff] at h
    rw [List.lookup_cons] at hlookup
    split at hlookup
    . next heq =>
      cases hlookup
      rw [beq_iff_eq.1 heq]
      exact ⟨h.1, h.2.1⟩
    . exact ih h.2.2 hlookup

/--
What is found in a tree is named as well as the tree, and so is the way to it.
-/
theorem wellNamed_of_follow {above : List Tree} (h : tree.WellNamed)
    (habove : ∀ up ∈ above, up.WellNamed) (hfollow : tree.follow above path = some below) :
    below.WellNamed ∧ ∀ name ∈ path, IsPathName name := by
  fun_induction follow above tree path with
  | case1 above tree =>
    cases hfollow
    exact ⟨h, List.forall_mem_nil _⟩
  | case2 path entries up above ih =>
    rw [List.forall_mem_cons] at habove
    have hbelow := ih habove.1 habove.2 hfollow
    exact ⟨hbelow.1, List.forall_mem_cons.2 ⟨(by decide : IsPathName ".."), hbelow.2⟩⟩
  | case3 => cases hfollow
  | case4 above name path hname entries next hlookup ih =>
    have hnext := wellNamed_of_lookup (wellNamed_dir_iff.1 h).2 hlookup
    have hbelow := ih hnext.2 (List.forall_mem_cons.2 ⟨h, habove⟩) hfollow
    exact ⟨hbelow.1, List.forall_mem_cons.2 ⟨hnext.1, hbelow.2⟩⟩
  | case5 => cases hfollow
  | case6 => cases hfollow

theorem wellNamed_nested (h : tree.WellNamed) (hpath : ∀ name ∈ path, IsPathName name) :
    (nested tree path).WellNamed := by
  induction path with
  | nil => exact h
  | cons name path ih =>
    rw [List.forall_mem_cons] at hpath
    rw [nested, wellNamed_dir_iff, entriesWellNamed_cons_iff]
    exact ⟨List.nodup_singleton name, hpath.1, ih hpath.2, by rw [EntriesWellNamed]; trivial⟩

/--
A name is added behind the others unless it is there already.
-/
theorem map_fst_putEntry (entries : List (String × Tree)) (name : String) (path : Path)
    (new : Tree) :
    (putEntry entries name path new).map Prod.fst
      =
    if name ∈ entries.map Prod.fst then
      entries.map Prod.fst
    else
      entries.map Prod.fst ++ [name] := by
  induction entries with
  | nil => rfl
  | cons entry entries ih =>
    obtain ⟨n, tree⟩ := entry
    rw [putEntry]
    split
    . next heq => simp [beq_iff_eq.1 heq]
    . next hne =>
      have hne' : name ≠ n := fun heq => hne (beq_iff_eq.2 heq.symm)
      rw [List.map_cons, List.map_cons, ih]
      simp only [List.mem_cons, hne', false_or]
      split <;> rfl

theorem nodup_putEntry (h : (entries.map Prod.fst).Nodup) (name : String) (path : Path)
    (new : Tree) : ((putEntry entries name path new).map Prod.fst).Nodup := by
  rw [map_fst_putEntry]
  split
  . exact h
  . next hname =>
    rw [← List.concat_eq_append]
    exact h.concat hname

mutual

/--
Trees stay well named when something well named is put into them.
-/
theorem wellNamed_put (tree : Tree) (path : Path) (new : Tree) (h : tree.WellNamed)
    (hpath : ∀ name ∈ path, IsPathName name) (hnew : new.WellNamed) :
    (put tree path new).WellNamed := by
  match tree, path with
  | .file _, [] =>
    rw [put]
    exact hnew
  | .file bytes, _ :: _ =>
    rw [put]
    exact h
  | .closed, [] =>
    rw [put]
    exact hnew
  | .closed, _ :: _ =>
    rw [put]
    exact h
  | .dir entries, [] =>
    -- An empty directory does not take the place of one that is there.
    by_cases hempty : new = .dir []
    . rw [hempty, put]
      exact h
    . rw [put]
      . exact hnew
      . exact hempty
  | .dir entries, name :: path =>
    rw [List.forall_mem_cons] at hpath
    rw [wellNamed_dir_iff] at h
    rw [put, wellNamed_dir_iff]
    exact ⟨nodup_putEntry h.1 name path new,
      entriesWellNamed_putEntry entries name path new h.2 hpath.1 hpath.2 hnew⟩

theorem entriesWellNamed_putEntry (entries : List (String × Tree)) (name : String) (path : Path)
    (new : Tree) (h : EntriesWellNamed entries) (hname : IsPathName name)
    (hpath : ∀ name ∈ path, IsPathName name) (hnew : new.WellNamed) :
    EntriesWellNamed (putEntry entries name path new) := by
  match entries with
  | [] =>
    rw [putEntry, entriesWellNamed_cons_iff]
    exact ⟨hname, wellNamed_nested hnew hpath, h⟩
  | (n, tree) :: entries =>
    rw [entriesWellNamed_cons_iff] at h
    rw [putEntry]
    split
    . rw [entriesWellNamed_cons_iff]
      exact ⟨h.1, wellNamed_put tree path new h.2.1 hpath hnew, h.2.2⟩
    . rw [entriesWellNamed_cons_iff]
      exact ⟨h.1, h.2.1, entriesWellNamed_putEntry entries name path new h.2.2 hname hpath hnew⟩

end

end Tree

namespace Review.Recording

theorem wellNamed_addFile {tree : Tree} (h : tree.WellNamed) (file : Json) :
    (addFile tree file).WellNamed := by
  unfold addFile
  split
  . apply Tree.wellNamed_put _ _ _ h
    . intro name hname
      exact Path.isPathName_of_mem_parts hname
    . rw [Tree.WellNamed]
      trivial
  . exact h

/--
The files of a recording make a tree with names as in a file system.
-/
theorem wellNamed_of_ofText? {text : String} {recording : Recording}
    (h : ofText? text = some recording) : recording.tree.WellNamed := by
  unfold ofText? at h
  split at h
  . cases h
    apply List.foldlRecOn (motive := Tree.WellNamed)
    . decide
    . intro tree htree file _
      exact wellNamed_addFile htree file
  . cases h

end Review.Recording
end CodeGauge
