import CallAtlas.Proofs.Json.RoundTrip
import CallAtlas.Source.Dumps

/-!
Dumps give back the trees that were dumped.  A tuple is told from a list by the object around its
items, so the data value of a tree determines the tree; the text of the data value determines the
data value; and the bytes of the text determine the text.
-/

namespace CallAtlas

namespace Term

mutual
/-- Whether a tree can be dumped and loaded: it has no number with a fractional part, its whole
numbers have no more digits than can be read, and its texts have characters only. -/
def isPortable : Term → Bool
  | .null | .bool _ => true
  | .int value => !Numeral.isOversized value
  | .decimal _ => false
  | .text value => value.string?.isSome
  | .list items | .tuple items => arePortable items

def arePortable : List Term → Bool
  | [] => true
  | item :: rest => item.isPortable && arePortable rest
end

mutual
theorem decode_encode (tree : Term) : decode tree.encode = .ok tree := by
  cases tree with
  | null | bool value | int value | decimal value | text value => rfl
  | list items => rw [encode, decode, decodeAll_encodeAll items, Except.map]
  | tuple items => rw [encode, decode, if_pos rfl, decodeAll_encodeAll items, Except.map]

theorem decodeAll_encodeAll (trees : List Term) : decodeAll (encodeAll trees) = .ok trees := by
  cases trees with
  | nil => rfl
  | cons tree rest =>
      rw [encodeAll, decodeAll, decode_encode tree, decodeAll_encodeAll rest]
      rfl
end

mutual
theorem isPortable_encode (tree : Term) : tree.encode.isPortable = tree.isPortable := by
  cases tree with
  | null | bool value | int value | decimal value | text value => rfl
  | list items => exact areItemsPortable_encodeAll items
  | tuple items =>
      have hitems := areItemsPortable_encodeAll items
      simpa [encode, Json.isPortable, Json.areFieldsPortable, tupleKey, Text.string?, isPortable]
        using hitems

theorem areItemsPortable_encodeAll (trees : List Term) :
    Json.areItemsPortable (encodeAll trees) = arePortable trees := by
  cases trees with
  | nil => rfl
  | cons tree rest =>
      rw [encodeAll, Json.areItemsPortable, isPortable_encode tree,
        areItemsPortable_encodeAll rest, arePortable]
end

end Term

/-- The text of a dump is read as the tree that was dumped. -/
theorem Dump.read_write [Depths] {tree : Term} (hportable : tree.isPortable = true)
    (hdepth : tree.encode.depth ≤ Depths.read) : read (write tree) = .ok tree := by
  rw [← Term.isPortable_encode] at hportable
  rw [read, write, Json.read_render (.lines 1) hportable hdepth]
  simp only [Term.decode_encode]

theorem Utf8.read_toUTF8 (text : String) : Utf8.read text.toUTF8 = .ok text := by
  have hvalid : text.toUTF8.IsValidUTF8 := text.isValidUTF8
  rw [Utf8.read, String.fromUTF8?, dif_pos hvalid]
  rfl

theorem FileTree.get?_write (files : FileTree) {path : Path} (hpath : path ≠ []) (entry : Entry) :
    (files.write path entry).get? path = some entry := by
  have hnotRoot : path.isEmpty = false := by simpa using hpath
  rw [get?, hnotRoot, write, Table.get?_insert, if_pos rfl]
  rfl

namespace Dumps

/-- A tree that was dumped into a file of the folder is loaded as it was. -/
theorem load_dump [Depths] (dumps : Dumps) (files : FileTree) {file : Path} (hfile : file ≠ [])
    {tree : Term} (hportable : tree.isPortable = true)
    (hdepth : tree.encode.depth ≤ Depths.read) :
    dumps.load (files.write (dumps.folder ++ file) (.ofBytes (Dump.write tree).toUTF8)) file =
      .ok tree := by
  have hpath : dumps.folder ++ file ≠ [] := by simp [hfile]
  rw [load, FileTree.get?_write files hpath, Entry.ofBytes, Utf8.read_toUTF8]
  simp only [Dump.read_write hportable hdepth]
  rfl

/-- A tree with tuples and lists that look alike, the key of tuples as a text, characters that are
escaped, and a character with two code units. -/
theorem load_dump_mixed :
    let tree : Term := .tuple [.text "tuple", .list [.tuple [], .list [], .list [.text "tuple"]],
      .text "a\"\\\n\x7fé😀", .int (-42), .int 0, .bool false, .null]
    tree.isPortable = true ∧ tree.encode.depth ≤ Depths.read ∧
      (ofFolder [] "" []).load
        (FileTree.empty.write ["a.json"] (.ofBytes (Dump.write tree).toUTF8)) ["a.json"] =
        .ok tree := by
  refine ⟨by decide +kernel, by decide +kernel, ?_⟩
  exact load_dump (ofFolder [] "" []) .empty (by decide) (by decide +kernel) (by decide +kernel)

end Dumps

end CallAtlas
