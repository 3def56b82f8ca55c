import BuildDescriptor.Proofs.Bind
import BuildDescriptor.Xml.File

/-!
# Documents by their bytes

A byte array is listed from its front to its back, one index at a time, and the document of a file
is read off that list.

## Main results

* `toList_eq_data_toList` — the list of the bytes of an array
* `Xml.readFile_of_parse` — the document of a file whose bytes are given as a list
-/

namespace BuildDescriptor

theorem toList_loop_eq (bytes : ByteArray) (i : Nat) (read : List UInt8) :
    ByteArray.toList.loop bytes i read = read.reverse ++ bytes.data.toList.drop i := by
  induction i, read using ByteArray.toList.loop.induct bytes with
  | case1 i read hlt ih =>
    have hi : i < bytes.data.toList.length := hlt
    have hget : bytes.get! i = bytes.data.toList[i] := getElem!_pos bytes.data i hlt
    rw [ByteArray.toList.loop, if_pos hlt, ih, List.drop_eq_getElem_cons hi, hget,
      List.reverse_cons, List.append_assoc, List.singleton_append]
  | case2 i read hge =>
    have hlength : bytes.data.toList.length ≤ i := Nat.le_of_not_lt hge
    rw [ByteArray.toList.loop, if_neg hge, List.drop_eq_nil_of_le hlength, List.append_nil]

theorem toList_eq_data_toList (bytes : ByteArray) : bytes.toList = bytes.data.toList := by
  rw [ByteArray.toList, toList_loop_eq, List.reverse_nil, List.nil_append, List.drop_zero]

namespace Xml

theorem readFile_of_parse {fs : FileSystem} {path : Path} {bytes : List UInt8} {root : Element}
    (hload : fs.load path = .ok (.ok ⟨bytes.toArray⟩)) (hparse : parse bytes = .ok root) :
    readFile fs path = .ok (.ok root) := by
  rw [readFile, hload, ok_bind]
  simp only [readBytes, toList_eq_data_toList, hparse]

end Xml

end BuildDescriptor
