import Concordance.Files.Tree

/-!
# Reading files

What reading a file comes to, from what it has in it, and what is read under a name that is nothing but
the name of something at the top.

## Main definitions

* `FileTree.IsPlainName`: a name that leads to what stands under it at the top

## Main results

* `readText_of_some`, `readText_of_none`, `readText_of_error`: a file that is read as a text
* `IsPlainName.locate_of_node?`, `IsPlainName.locate_of_missing`: where a plain name leads
-/

namespace Concordance.FileTree

variable {tree : FileTree} {path : String}

section Text

variable {content : ByteArray}

theorem readText_of_some {text : String} (hread : tree.read path = .ok content)
    (htext : String.fromUTF8? content = some text) : tree.readText path = .ok text := by
  simp only [readText, hread, htext]

theorem readText_of_none (hread : tree.read path = .ok content)
    (hnone : String.fromUTF8? content = none) : tree.readText path = .error .notText := by
  simp only [readText, hread, hnone]

theorem readText_of_error {cause : FileError} (hread : tree.read path = .error cause) :
    tree.readText path = .error cause := by
  simp only [readText, hread]

/-- The bytes of a text are read as that text. -/
theorem readText_of_toUTF8 {text : String} (hread : tree.read path = .ok text.toUTF8) :
    tree.readText path = .ok text :=
  readText_of_some hread (dif_pos text.isValidUTF8)

end Text

/-- A path that is a name, and nothing but the name of something in a folder. -/
structure IsPlainName (name : String) : Prop where
  components_eq : Path.components name = [name]
  ne_empty : name ≠ ""
  ne_dot : name ≠ "."
  ne_dots : name ≠ ".."
  nul_not_mem : '\x00' ∉ name.toList
  size_le : name.utf8ByteSize ≤ longestName

instance : DecidablePred IsPlainName := fun name =>
  decidable_of_iff (Path.components name = [name] ∧ name ≠ "" ∧ name ≠ "." ∧ name ≠ ".." ∧
      '\x00' ∉ name.toList ∧ name.utf8ByteSize ≤ longestName)
    ⟨fun ⟨h₁, h₂, h₃, h₄, h₅, h₆⟩ => ⟨h₁, h₂, h₃, h₄, h₅, h₆⟩,
      fun ⟨h₁, h₂, h₃, h₄, h₅, h₆⟩ => ⟨h₁, h₂, h₃, h₄, h₅, h₆⟩⟩

namespace IsPlainName

variable {name : String} (h : IsPlainName name)

include h

theorem locate_eq : tree.locate name = tree.follow mostLinks [] [name] := by
  have hnul : name.contains '\x00' = false := by
    rw [String.contains_char_eq, decide_eq_false h.nul_not_mem]
  have hsize : ¬longestPath < name.utf8ByteSize := by
    have hname := h.size_le
    unfold longestName at hname
    unfold longestPath
    omega
  rw [locate, hnul, if_neg Bool.false_ne_true, if_neg hsize, if_neg h.ne_empty, h.components_eq]

/-- A plain name leads to what stands under it at the top, unless that is a link. -/
theorem locate_of_node? {node : Node} (hnode : tree.node? [name] = some node)
    (hlink : ∀ target, node ≠ .link target) : tree.locate name = .ok (.found [name]) := by
  have htop : tree.isFolder [] = true := rfl
  have hsize : ¬longestName < name.utf8ByteSize := Nat.not_lt.mpr h.size_le
  rw [h.locate_eq, follow]
  cases node with
  | link target => exact absurd rfl (hlink target)
  | _ => simp [htop, hsize, h.ne_dot, h.ne_dots, hnode, follow]

/-- What is not there may be made. -/
theorem locate_of_missing (hnode : tree.node? [name] = none) :
    tree.locate name = .ok (.missing [name]) := by
  have htop : tree.isFolder [] = true := rfl
  have hsize : ¬longestName < name.utf8ByteSize := Nat.not_lt.mpr h.size_le
  rw [h.locate_eq, follow]
  simp [htop, hsize, h.ne_dot, h.ne_dots, hnode]

theorem find_of_node? {node : Node} (hnode : tree.node? [name] = some node)
    (hlink : ∀ target, node ≠ .link target) : tree.find name = .ok [name] := by
  rw [find, h.locate_of_node? hnode hlink]

theorem find_of_missing (hnode : tree.node? [name] = none) : tree.find name = .error .notFound := by
  rw [find, h.locate_of_missing hnode]

theorem read_of_node? {content : ByteArray} (hnode : tree.node? [name] = some (.file content)) :
    tree.read name = .ok content := by
  rw [read, h.find_of_node? hnode (by simp)]
  simp only [hnode]

end IsPlainName

end Concordance.FileTree
