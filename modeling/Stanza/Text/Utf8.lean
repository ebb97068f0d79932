import Stanza.Text.Basic

/-! Texts as bytes in UTF-8, and back. -/

namespace Stanza.Text

def toBytes (t : Text) : ByteArray := (String.ofList t).toUTF8

def ofBytes? (b : ByteArray) : Option Text := (String.fromUTF8? b).map String.toList

@[simp] theorem ofBytes?_toBytes (t : Text) : ofBytes? (toBytes t) = some t := by
  have valid : (String.ofList t).toUTF8.IsValidUTF8 := (String.ofList t).isValidUTF8
  have whole : String.fromUTF8? (String.ofList t).toUTF8 = some (String.ofList t) := dif_pos valid
  rw [ofBytes?, toBytes, whole, Option.map_some, String.toList_ofList]

end Stanza.Text
