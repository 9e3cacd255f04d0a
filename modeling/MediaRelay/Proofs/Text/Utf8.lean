import MediaRelay.Text.Utf8
/-! The bytes of a text are read as that text. -/

namespace MediaRelay

theorem fromUTF8?_toUTF8 (s : String) : String.fromUTF8? s.toUTF8 = some s := dif_pos s.isValidUTF8

theorem Text.charsOfBytes_toUTF8 (s : String) : charsOfBytes s.toUTF8 = s.toList.map some := by
  rw [charsOfBytes, fromUTF8?_toUTF8]

end MediaRelay
