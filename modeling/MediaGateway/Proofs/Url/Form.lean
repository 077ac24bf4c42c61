import MediaGateway.Proofs.Text.Lenient
import MediaGateway.Proofs.Url.Percent
import MediaGateway.Url

/-!
# Form encoding reads back

The query of a list of pairs is decoded to the pairs, whatever texts they hold. The
signs that separate names, values and pairs are encoded wherever they are part of a
text, and so is a plus sign, which else stands for a space.
-/

namespace MediaGateway.Url

namespace Form

/-- A character with a space for a plus sign. -/
def spaced (char : Char) : Char := if char = '+' then ' ' else char

/-- Spaces are put in first, then percent signs are read. -/
theorem decodeText_eq (chars : List Char) :
    decodeText chars = Bytes.toTextLenient
      (percentDecode ((chars.map spaced).flatMap String.utf8EncodeChar)) := by
  rw [decodeText, Bytes.ofText_ofList]
  rfl

/-- An octet that stays as it is is no sign of the encoding. -/
structure Unmarked (octet : UInt8) : Prop where
  /-- It is in ASCII. -/
  ascii : octet.toNat < 0x80
  /-- It is no percent sign. -/
  percent : octet ≠ 0x25
  /-- Its character is no plus sign. -/
  plus : Char.ofNat octet.toNat ≠ '+'

/-- Octets that stay as they are are no signs of the encoding. -/
theorem unmarked_of_isPlain {octet : UInt8} (h : isPlain octet = true) : Unmarked octet := by
  have hall : ∀ octet : UInt8, isPlain octet = true →
      octet.toNat < 0x80 ∧ octet ≠ 0x25 ∧ Char.ofNat octet.toNat ≠ '+' :=
    Bytes.forall_octet (by decide +kernel)
  obtain ⟨ascii, percent, plus⟩ := hall octet h
  exact ⟨ascii, percent, plus⟩

/-- The characters that stand for an octet hold no sign that separates. -/
theorem separators_not_mem_encodeOctet (octet : UInt8) :
    '&' ∉ encodeOctet octet ∧ '=' ∉ encodeOctet octet := by
  have hall : ∀ octet : UInt8, '&' ∉ encodeOctet octet ∧ '=' ∉ encodeOctet octet :=
    Bytes.forall_octet (by decide +kernel)
  exact hall octet

/-- The characters of a text hold no sign that separates. -/
theorem separators_not_mem_encodeText (text : String) :
    '&' ∉ encodeText text ∧ '=' ∉ encodeText text := by
  constructor <;>
  · intro member
    obtain ⟨octet, _, ho⟩ := List.mem_flatMap.mp member
    simp only [separators_not_mem_encodeOctet] at ho

/-- Three characters that stand for an octet have no plus sign. -/
theorem map_spaced_percentOctet (octet : UInt8) :
    (percentOctet octet).map spaced = percentOctet octet := by
  have hall : ∀ digit : Fin 16, spaced (hexCapital digit.val) = hexCapital digit.val := by decide
  have hb : octet.toNat < 256 := octet.toNat_lt
  have hu := hall ⟨octet.toNat / 16, by omega⟩
  have hl := hall ⟨octet.toNat % 16, by omega⟩
  have hs : spaced '%' = '%' := by decide
  simp only [percentOctet, List.map_cons, List.map_nil, hs, hu, hl]

/-- The characters that stand for an octet decode to it. -/
theorem percentDecode_encodeOctet (octet : UInt8) (rest : Bytes) :
    percentDecode (((encodeOctet octet).map spaced).flatMap String.utf8EncodeChar ++ rest) =
      octet :: percentDecode rest := by
  rw [encodeOctet]
  split
  next plain =>
    have unmarked := unmarked_of_isPlain plain
    rw [List.map_singleton, spaced, if_neg unmarked.plus, List.flatMap_singleton,
      Bytes.utf8EncodeChar_ofNat unmarked.ascii, List.singleton_append,
      percentDecode_cons unmarked.percent]
  next =>
    split
    next space =>
      rw [space]
      exact percentDecode_cons (by decide) rest
    next => rw [map_spaced_percentOctet, percentDecode_percentOctet]

/-- The characters of a text decode to the text. -/
theorem decodeText_encodeText (text : String) : decodeText (encodeText text) = text := by
  have ho : ∀ octets : Bytes, percentDecode
      (((octets.flatMap encodeOctet).map spaced).flatMap String.utf8EncodeChar) = octets := by
    intro octets
    induction octets with
    | nil => rfl
    | cons octet octets ih =>
      rw [List.flatMap_cons, List.map_append, List.flatMap_append, percentDecode_encodeOctet, ih]
  rw [decodeText_eq, encodeText, ho, Bytes.toTextLenient_ofText]

/-- The characters of a pair decode to the pair. -/
theorem decodePair_encodePair (pair : Pair) : decodePair (encodePair pair) = pair := by
  have hn : ∀ char ∈ encodeText pair.1, decide (char ≠ '=') = true := by
    intro char member
    rw [decide_eq_true_eq]
    rintro rfl
    exact (separators_not_mem_encodeText pair.1).2 member
  have ht : (encodePair pair).takeWhile (· ≠ '=') = encodeText pair.1 := by
    rw [encodePair, List.takeWhile_append_of_pos hn, List.takeWhile_cons_of_neg (by decide),
      List.append_nil]
  have hd : (encodePair pair).dropWhile (· ≠ '=') = '=' :: encodeText pair.2 := by
    rw [encodePair, List.dropWhile_append_of_pos hn, List.dropWhile_cons_of_neg (by decide)]
  rw [decodePair, ht, hd, List.drop_one, List.tail_cons, decodeText_encodeText,
    decodeText_encodeText]

/-- The query of pairs is decoded to the pairs. -/
theorem decode_encode (pairs : List Pair) : decode (encode pairs) = pairs := by
  rw [decode, encode, String.toList_ofList, encodePairs]
  by_cases hp : pairs = []
  · rw [hp]
    rfl
  · have separate : ∀ chars ∈ pairs.map encodePair, '&' ∉ chars := by
      intro chars member
      obtain ⟨pair, _, rfl⟩ := List.mem_map.mp member
      simp only [encodePair, List.mem_append, List.mem_cons, separators_not_mem_encodeText,
        false_or, or_false]
      decide
    have present : ∀ chars ∈ pairs.map encodePair, decide (chars ≠ []) = true := by
      intro chars member
      obtain ⟨pair, _, rfl⟩ := List.mem_map.mp member
      simp [encodePair]
    have back : ∀ pair ∈ pairs, (decodePair ∘ encodePair) pair = pair :=
      fun pair _ => decodePair_encodePair pair
    rw [List.splitOn_intercalate '&' separate (by simpa using hp), List.filter_eq_self.mpr present,
      List.map_map, List.map_congr_left back, List.map_id']

/-- A query is decoded in parts at an ampersand. -/
theorem decode_append (before after : String) :
    decode (before ++ "&" ++ after) = decode before ++ decode after := by
  have ha : ("&").toList = ['&'] := rfl
  simp only [decode, String.toList_append, ha, List.append_assoc, List.singleton_append,
    List.splitOn_append_cons_self, List.filter_append, List.map_append]

end Form

/-- The pairs that the query of an address is decoded to. -/
def pairs (url : Url) : List Form.Pair :=
  match url.query with
  | none => []
  | some query => Form.decode query

/-- Pairs are put after those that an address has. -/
theorem pairs_withPairs (url : Url) (pairs : List Form.Pair) :
    ∃ query, (url.withPairs pairs).query = some query ∧
      Form.decode query = url.pairs ++ pairs := by
  have hn : Form.decode "" = [] := rfl
  rw [withPairs, Url.pairs]
  split
  next none => exact ⟨_, rfl, by simp only [none, Form.decode_encode, List.nil_append]⟩
  next empty => exact ⟨_, rfl, by simp only [empty, hn, Form.decode_encode, List.nil_append]⟩
  next before _ given =>
    exact ⟨_, rfl, by simp only [given, Form.decode_append, Form.decode_encode]⟩

end MediaGateway.Url
