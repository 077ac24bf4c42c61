import MediaGateway.Bytes.Base64

/-!
# Reading back Base64

Symbols stand for their six bits, and no symbol is an equals sign. So the groups of the padded form
read back one after another, the last one by the equals signs in it. The bare form is the padded
one without these, and how many there were is known from its length.
-/

namespace MediaGateway.Base64

/-- A symbol reads back as its six bits. -/
theorem value?_symbol {value : Nat} (h : value < 64) : value? (symbol value) = some value := by
  have hall : ∀ value < 64, value? (symbol value) = some value := by decide
  exact hall value h

/-- No symbol is an equals sign. -/
theorem symbol_ne {value : Nat} (h : value < 64) : symbol value ≠ '=' := by
  have hall : ∀ value < 64, symbol value ≠ '=' := by decide
  exact hall value h

/-- Four symbols read back as three octets. -/
theorem decodeOnto_group {p q r s : Nat} (hp : p < 64) (hq : q < 64) (hr : r < 64) (hs : s < 64)
    (seen : Bytes) (rest : List Char) :
    decodeOnto seen (symbol p :: symbol q :: symbol r :: symbol s :: rest) =
      decodeOnto (UInt8.ofNat (r % 4 * 64 + s) :: UInt8.ofNat (q % 16 * 16 + r / 4) ::
        UInt8.ofNat (p * 4 + q / 16) :: seen) rest := by
  simp only [decodeOnto, value?_symbol hp, value?_symbol hq, value?_symbol hr, value?_symbol hs,
    if_neg (symbol_ne hr), if_neg (symbol_ne hs)]

/-- Three symbols and an equals sign read back as two octets. -/
theorem decodeOnto_pair {p q r : Nat} (hp : p < 64) (hq : q < 64) (hr : r < 64)
    (spare : r % 4 = 0) (seen : Bytes) :
    decodeOnto seen [symbol p, symbol q, symbol r, '='] =
      some (seen.reverse ++ [UInt8.ofNat (p * 4 + q / 16), UInt8.ofNat (q % 16 * 16 + r / 4)]) := by
  simp only [decodeOnto, value?_symbol hp, value?_symbol hq, value?_symbol hr,
    if_neg (symbol_ne hr), spare, and_self, if_true, List.reverse_cons, List.append_assoc,
    List.cons_append, List.nil_append]

/-- Two symbols and two equals signs read back as one octet. -/
theorem decodeOnto_single {p q : Nat} (hp : p < 64) (hq : q < 64) (spare : q % 16 = 0)
    (seen : Bytes) :
    decodeOnto seen [symbol p, symbol q, '=', '='] =
      some (seen.reverse ++ [UInt8.ofNat (p * 4 + q / 16)]) := by
  simp only [decodeOnto, value?_symbol hp, value?_symbol hq, spare, and_self, if_true,
    List.reverse_cons]

/-- What is written already stays behind what is written after it. -/
theorem symbolsOnto_append (fill : Bool) (written before : List Char) : ∀ bytes : Bytes,
    symbolsOnto fill (written ++ before) bytes = symbolsOnto fill written bytes ++ before
  | _ :: _ :: _ :: rest => symbolsOnto_append fill (_ :: _ :: _ :: _ :: written) before rest
  | [_, _] => by cases fill <;> rfl
  | [_] => by cases fill <;> rfl
  | [] => rfl

/-- The symbols of octets, in order. -/
def symbols (fill : Bool) (bytes : Bytes) : List Char := (symbolsOnto fill [] bytes).reverse

/-- Three octets are written as four symbols in front of the others. -/
theorem symbols_group (fill : Bool) {a b c : UInt8} {bits : Nat} (rest : Bytes)
    (h : (a.toNat * 256 + b.toNat) * 256 + c.toNat = bits) :
    symbols fill (a :: b :: c :: rest) =
      symbol (bits / 262144) :: symbol (bits / 4096 % 64) :: symbol (bits / 64 % 64) ::
        symbol (bits % 64) :: symbols fill rest := by
  have hs := symbolsOnto_append fill [] [symbol (bits % 64), symbol (bits / 64 % 64),
    symbol (bits / 4096 % 64), symbol (bits / 262144)] rest
  rw [List.nil_append] at hs
  simp only [symbols, symbolsOnto, h, hs, List.reverse_append]
  rfl

/-- The padded form reads back. -/
theorem decodeOnto_symbols (seen : Bytes) : ∀ bytes : Bytes,
    decodeOnto seen (symbols true bytes) = some (seen.reverse ++ bytes)
  | a :: b :: c :: rest => by
    have ha := a.toNat_lt
    have hb := b.toNat_lt
    have hc := c.toNat_lt
    obtain ⟨bits, hv⟩ : ∃ bits, (a.toNat * 256 + b.toNat) * 256 + c.toNat = bits := ⟨_, rfl⟩
    rw [symbols_group true rest hv, decodeOnto_group (by omega) (by omega) (by omega) (by omega),
      decodeOnto_symbols _ rest]
    have hfirst : bits / 262144 * 4 + bits / 4096 % 64 / 16 = a.toNat := by omega
    have hsecond : bits / 4096 % 64 % 16 * 16 + bits / 64 % 64 / 4 = b.toNat := by omega
    have hthird : bits / 64 % 64 % 4 * 64 + bits % 64 = c.toNat := by omega
    simp only [hfirst, hsecond, hthird, UInt8.ofNat_toNat, List.reverse_cons, List.append_assoc,
      List.cons_append, List.nil_append]
  | [a, b] => by
    have ha := a.toNat_lt
    have hb := b.toNat_lt
    change decodeOnto seen [symbol ((a.toNat * 256 + b.toNat) * 4 / 4096),
      symbol ((a.toNat * 256 + b.toNat) * 4 / 64 % 64),
      symbol ((a.toNat * 256 + b.toNat) * 4 % 64), '='] = _
    generalize hv : (a.toNat * 256 + b.toNat) * 4 = bits
    rw [decodeOnto_pair (by omega) (by omega) (by omega) (by omega)]
    have hfirst : bits / 4096 * 4 + bits / 64 % 64 / 16 = a.toNat := by omega
    have hsecond : bits / 64 % 64 % 16 * 16 + bits % 64 / 4 = b.toNat := by omega
    rw [hfirst, hsecond, UInt8.ofNat_toNat, UInt8.ofNat_toNat]
  | [a] => by
    have ha := a.toNat_lt
    change decodeOnto seen [symbol (a.toNat * 16 / 64), symbol (a.toNat * 16 % 64), '=', '='] = _
    generalize hv : a.toNat * 16 = bits
    rw [decodeOnto_single (by omega) (by omega) (by omega)]
    have hfirst : bits / 64 * 4 + bits % 64 / 16 = a.toNat := by omega
    rw [hfirst, UInt8.ofNat_toNat]
  | [] => by simp [symbols, symbolsOnto, decodeOnto]

/-- The equals signs that fill symbols up to whole groups. -/
def filling (chars : List Char) : List Char := List.replicate ((4 - chars.length % 4) % 4) '='

/-- The octets of a text without equals signs. -/
def decodeBare? (text : String) : Option Bytes :=
  decodeOnto [] (text.toList ++ filling text.toList)

/-- The padded form is the bare one, filled up. -/
theorem symbols_filled : ∀ bytes : Bytes,
    symbols true bytes = symbols false bytes ++ filling (symbols false bytes)
  | a :: b :: c :: rest => by
    have hl : ∀ w x y z : Char, ∀ chars, filling (w :: x :: y :: z :: chars) = filling chars := by
      intro w x y z chars
      have hm : (chars.length + 4) % 4 = chars.length % 4 := by omega
      simp only [filling, List.length_cons, Nat.add_assoc, Nat.reduceAdd, hm]
    rw [symbols_group true rest rfl, symbols_group false rest rfl, symbols_filled rest, hl]
    rfl
  | [_, _] => rfl
  | [_] => rfl
  | [] => rfl

/-- Octets read back from their bare form. -/
theorem decodeBare?_encodeBare (bytes : Bytes) : decodeBare? (encodeBare bytes) = some bytes := by
  have hs : (encodeBare bytes).toList = symbols false bytes := String.toList_ofList
  rw [decodeBare?, hs, ← symbols_filled, decodeOnto_symbols]
  rfl

/-- Octets read back from their padded form. -/
theorem decode?_encode (bytes : Bytes) : decode? (encode bytes) = some bytes := by
  have hs : (encode bytes).toList = symbols true bytes := String.toList_ofList
  rw [decode?, hs, decodeOnto_symbols]
  rfl

end MediaGateway.Base64
