namespace TracedMath

def utf8 (s : String) : List UInt8 := s.toList.flatMap String.utf8EncodeChar

/-- Bytes that encode no text are refused. -/
def ofUtf8? (bytes : List UInt8) : Option String := String.fromUTF8? ⟨bytes.toArray⟩

@[simp] theorem utf8_append (s t : String) : utf8 (s ++ t) = utf8 s ++ utf8 t := by
  simp [utf8]

theorem utf8_join (ss : List String) : utf8 (String.join ss) = ss.flatMap utf8 := by
  rw [utf8, String.toList_join, List.flatMap_assoc]
  rfl

theorem utf8_injective {s t : String} (h : utf8 s = utf8 t) : s = t := by
  have encoded : s.toList.utf8Encode = t.toList.utf8Encode := congrArg List.toByteArray h
  rw [String.utf8Encode_toList, String.utf8Encode_toList] at encoded
  exact String.toByteArray_inj.mp encoded

end TracedMath
