import BluetoothDiscovery.Proofs.Advertisement.Meaning

/-!
# Identifiers of different widths

A service with a short identifier may be named by two, four or sixteen octets.  `Uuid.widen` writes
a short identifier with more octets, and it stands for the same service then
(`Uuid.ofLittleEndian_widen`).  `AdStructure.Widened` says of two structures that the second one is
the first, or says the same of services with wider identifiers.  Such structures add the same to
what an advertisement says (`AdvertisementData.absorb_widened`), and so rows of them are read alike,
whatever stands between them and behind them (`parse_eq_of_widened`).
-/

namespace BluetoothDiscovery

/-! ### Identifiers -/

namespace Uuid

/-- The lowest octets of a number, the least significant first. -/
def lowOctets : Nat → Nat → List UInt8
  | 0, _ => []
  | width + 1, n => UInt8.ofNat n :: lowOctets width (n / 256)

theorem length_lowOctets (width n : Nat) : (lowOctets width n).length = width := by
  induction width generalizing n with
  | zero => rfl
  | succ width ih => rw [lowOctets, List.length_cons, ih]

theorem littleEndian_lowOctets (width n : Nat) :
    littleEndian (lowOctets width n) = n % 256 ^ width := by
  induction width generalizing n with
  | zero => exact (Nat.mod_one n).symm
  | succ width ih =>
    show littleEndian (lowOctets width (n / 256)) * 256 + n % 256 = _
    rw [ih, pow_succ', Nat.mod_mul, Nat.add_comm, Nat.mul_comm]

/-- A short identifier with more octets.  Four octets are the same number with zeros above it, and
sixteen are the UUID for which the identifier stands. -/
def widen (width : Nat) (id : List UInt8) : List UInt8 :=
  if width = 16 then lowOctets 16 (ofShort (UInt32.ofNat (littleEndian id))).toNat
  else lowOctets width (littleEndian id)

theorem length_widen (width : Nat) (id : List UInt8) : (widen width id).length = width := by
  unfold widen
  split
  next wide => rw [length_lowOctets, wide]
  next => rw [length_lowOctets]

/-- A short identifier stands for one service at every width. -/
theorem ofLittleEndian_widen {width : Nat} {id : List UInt8}
    (narrow : id.length = 2 ∨ id.length = 4) (wide : width = 4 ∨ width = 16) :
    ofLittleEndian (widen width id) = ofLittleEndian id := by
  have short : id.length ≤ 4 := by omega
  have fits : littleEndian id < 256 ^ 4 := by
    rw [littleEndian_eq_number]
    exact (number_lt id).trans_le (Nat.pow_le_pow_right (by decide) short)
  have length := length_widen width id
  have stands : ofLittleEndian id = ofShort (UInt32.ofNat (littleEndian id)) := if_pos short
  unfold ofLittleEndian at stands ⊢
  rw [stands]
  rcases wide with rfl | rfl
  · -- Widened to four octets the number is the same, since it fits.
    have same : littleEndian (widen 4 id) = littleEndian id := by
      show littleEndian (lowOctets 4 _) = _
      rw [littleEndian_lowOctets, Nat.mod_eq_of_lt fits]
    rw [if_pos length.le, same]
  · -- Widened to sixteen it is the whole number that the short one stands for.
    have whole : littleEndian (widen 16 id) =
        (ofShort (UInt32.ofNat (littleEndian id))).toNat := by
      show littleEndian (lowOctets 16 _) = _
      rw [littleEndian_lowOctets]
      exact Nat.mod_eq_of_lt (ofShort _).lt
    rw [if_neg (by omega), whole]
    exact toNat_injective (Nat.mod_eq_of_lt (ofShort _).lt)

/-- The battery service is `0000180f-0000-1000-8000-00805f9b34fb`, from its last octet on. -/
example : widen 16 [0x0F, 0x18] =
    [0xFB, 0x34, 0x9B, 0x5F, 0x80, 0, 0, 0x80, 0, 0x10, 0, 0, 0x0F, 0x18, 0, 0] := by decide

end Uuid

/-! ### Structures -/

namespace AdStructure

variable {ss : List AdStructure}

/-- The length of a structure is a number of one octet. -/
def Fits (s : AdStructure) : Prop := s.body.length + 1 < 256

instance (s : AdStructure) : Decidable s.Fits := inferInstanceAs (Decidable (_ < _))

/-- The structures of a row of octets that begins with whole structures. -/
theorem split_flatMap_octets (fits : ∀ s ∈ ss, s.Fits) (rest : List UInt8) :
    split (ss.flatMap octets ++ rest) = ss ++ split rest := by
  induction ss with
  | nil => rfl
  | cons s ss ih =>
    obtain ⟨first, later⟩ := List.forall_mem_cons.mp fits
    have length : (UInt8.ofNat (s.body.length + 1)).toNat = s.body.length + 1 :=
      UInt8.toNat_ofNat_of_lt' first
    rw [List.flatMap_cons, List.append_assoc, octets, List.cons_append, List.cons_append,
      split_next length, ih later]
    rfl

/-- A structure and the same structure with wider identifiers.  The items of a list are widened one
by one, and a rest that is too short for an item is left out.  Of the data of a service the
identifier in front is widened; a body that is too short for one stays as it is. -/
inductive Widened : AdStructure → AdStructure → Prop
  | same (s : AdStructure) : Widened s s
  | lists {s t : AdStructure} {n m : Nat} (narrow : s.listedWidth = some n)
      (wide : t.listedWidth = some m) (wider : n < m)
      (body : t.body = (items n s.body).flatMap (Uuid.widen m)) : Widened s t
  | serves {s t : AdStructure} {n m : Nat} (narrow : s.servedWidth = some n)
      (wide : t.servedWidth = some m) (wider : n < m)
      (body : t.body = if s.body.length < n then s.body
        else Uuid.widen m (s.body.take n) ++ s.body.drop n) : Widened s t

theorem chunks_flatMap {α : Type} {width : Nat} (pos : 0 < width) {octets : α → List UInt8}
    (widths : ∀ x, (octets x).length = width) (xs : List α) :
    chunks width (xs.flatMap octets) = xs.map octets := by
  induction xs with
  | nil =>
    rw [List.flatMap_nil, chunks, dif_neg fun h => absurd (pos.trans_le h.2) (Nat.lt_irrefl 0)]
    rfl
  | cons x xs ih =>
    have enough : 0 < width ∧ width ≤ (octets x ++ xs.flatMap octets).length := by
      rw [List.length_append, widths]
      exact ⟨pos, Nat.le_add_right _ _⟩
    rw [List.flatMap_cons, chunks, dif_pos enough, List.take_left' (widths x),
      List.drop_left' (widths x), ih, List.map_cons]

end AdStructure

/-! ### What is read -/

namespace AdvertisementData

open AdStructure (items chunks_eq_items length_of_mem_items chunks_flatMap width_of_listed
  width_of_served Widened)

variable {s t : AdStructure} {n m : Nat}

theorem absorb_of_listed (data : AdvertisementData) (h : s.listedWidth = some n) :
    data.absorb s = data.addServices n s.body := by
  have absorbs := data.absorbs s
  generalize data.absorb s = data' at absorbs
  cases absorbs with
  | lists listed =>
    obtain rfl := Option.some.inj (listed.symm.trans h)
    rfl
  | serves listed | nothing listed => cases listed.symm.trans h
  | completeName kind | shortName kind | makes kind => simp [AdStructure.listedWidth, kind] at h

theorem absorb_of_served (data : AdvertisementData) (h : s.servedWidth = some n) :
    data.absorb s = data.addServiceData n s.body := by
  have absorbs := data.absorbs s
  generalize data.absorb s = data' at absorbs
  cases absorbs with
  | serves _ served =>
    obtain rfl := Option.some.inj (served.symm.trans h)
    rfl
  | lists _ served | nothing _ served => cases served.symm.trans h
  | completeName kind | shortName kind | makes kind => simp [AdStructure.servedWidth, kind] at h

theorem addServices_widen (data : AdvertisementData) (narrow : n = 2 ∨ n = 4)
    (wide : m = 4 ∨ m = 16) (body : List UInt8) :
    data.addServices m ((items n body).flatMap (Uuid.widen m)) = data.addServices n body := by
  have services : (items n body).map (Uuid.ofLittleEndian ∘ Uuid.widen m) =
      (items n body).map Uuid.ofLittleEndian := by
    refine List.map_congr_left fun item mem => Uuid.ofLittleEndian_widen ?_ wide
    rwa [length_of_mem_items mem]
  unfold addServices
  rw [chunks_flatMap (by omega) (Uuid.length_widen m), List.map_map, services,
    chunks_eq_items (by omega)]

theorem addServiceData_widen (data : AdvertisementData) (narrow : n = 2 ∨ n = 4)
    (wide : m = 4 ∨ m = 16) {body : List UInt8} (enough : n ≤ body.length) :
    data.addServiceData m (Uuid.widen m (body.take n) ++ body.drop n) =
      data.addServiceData n body := by
  have length := Uuid.length_widen m (body.take n)
  have whole : ¬ (Uuid.widen m (body.take n) ++ body.drop n).length < m := by
    rw [List.length_append, length]
    omega
  have service : Uuid.ofLittleEndian (Uuid.widen m (body.take n)) =
      Uuid.ofLittleEndian (body.take n) := by
    refine Uuid.ofLittleEndian_widen ?_ wide
    rwa [List.length_take_of_le enough]
  unfold addServiceData
  rw [if_neg whole, if_neg (Nat.not_lt.mpr enough), List.take_left' length, List.drop_left' length,
    service]

/-- A structure adds the same with wider identifiers. -/
theorem absorb_widened (data : AdvertisementData) (h : Widened s t) :
    data.absorb t = data.absorb s := by
  cases h with
  | same => rfl
  | lists narrow wide wider body =>
    have before := width_of_listed narrow
    have after := width_of_listed wide
    rw [data.absorb_of_listed narrow, data.absorb_of_listed wide, body]
    exact data.addServices_widen (by omega) (by omega) _
  | serves narrow wide wider body =>
    have before := width_of_served narrow
    have after := width_of_served wide
    rw [data.absorb_of_served narrow, data.absorb_of_served wide, body]
    split
    next short =>
      unfold addServiceData
      rw [if_pos short, if_pos (short.trans wider)]
    next enough => exact data.addServiceData_widen (by omega) (by omega) (Nat.le_of_not_lt enough)

theorem foldl_absorb_widened {ss ts : List AdStructure} (h : List.Forall₂ Widened ss ts)
    (data : AdvertisementData) : ts.foldl absorb data = ss.foldl absorb data := by
  induction h generalizing data with
  | nil => rfl
  | cons first _ ih => rw [List.foldl_cons, List.foldl_cons, data.absorb_widened first, ih]

end AdvertisementData

open AdStructure (Widened octets)

/-- **Widths do not matter.**  In a row of whole structures any may be replaced by one with wider
identifiers, as long as it fits into a structure: then just the same is read, whatever follows the
row.  Different short identifiers stand for different services. -/
theorem parse_eq_of_widened :
    (∀ (ss ts : List AdStructure) (rest : List UInt8), List.Forall₂ Widened ss ts →
      (∀ s ∈ ss, s.Fits) → (∀ t ∈ ts, t.Fits) →
      AdvertisementData.parse (ts.flatMap octets ++ rest) =
        AdvertisementData.parse (ss.flatMap octets ++ rest)) ∧
      Function.Injective Uuid.ofShort := by
  refine ⟨fun ss ts rest widened fits fits' => ?_, fun a b same => Uuid.ofShort_inj.mp same⟩
  unfold AdvertisementData.parse
  rw [AdStructure.split_flatMap_octets fits, AdStructure.split_flatMap_octets fits',
    List.foldl_append, List.foldl_append, AdvertisementData.foldl_absorb_widened widened]

/-- The battery service, listed with four octets for two and with data behind sixteen for two, is
listed once beside the heart rate service, and its later data count. -/
theorem parse_eq_of_widened_battery :
    List.Forall₂ Widened
        [⟨0x03, [0x0F, 0x18, 0x0D, 0x18, 0x01]⟩, ⟨0x04, [0x0F, 0x18, 0, 0]⟩,
          ⟨0x16, [0x0F, 0x18, 0x64]⟩, ⟨0x20, [0x0F, 0x18, 0, 0, 0x63]⟩, ⟨0x16, [0x0F]⟩]
        [⟨0x05, [0x0F, 0x18, 0, 0, 0x0D, 0x18, 0, 0]⟩, ⟨0x04, [0x0F, 0x18, 0, 0]⟩,
          ⟨0x21, [0xFB, 0x34, 0x9B, 0x5F, 0x80, 0, 0, 0x80, 0, 0x10, 0, 0, 0x0F, 0x18, 0, 0, 0x64]⟩,
          ⟨0x20, [0x0F, 0x18, 0, 0, 0x63]⟩, ⟨0x20, [0x0F]⟩] ∧
      AdvertisementData.parse [9, 0x05, 0x0F, 0x18, 0, 0, 0x0D, 0x18, 0, 0,
          5, 0x04, 0x0F, 0x18, 0, 0,
          18, 0x21, 0xFB, 0x34, 0x9B, 0x5F, 0x80, 0, 0, 0x80, 0, 0x10, 0, 0, 0x0F, 0x18, 0, 0, 0x64,
          6, 0x20, 0x0F, 0x18, 0, 0, 0x63, 2, 0x20, 0x0F, 7, 0x09] =
        AdvertisementData.parse [6, 0x03, 0x0F, 0x18, 0x0D, 0x18, 0x01, 5, 0x04, 0x0F, 0x18, 0, 0,
          4, 0x16, 0x0F, 0x18, 0x64, 6, 0x20, 0x0F, 0x18, 0, 0, 0x63, 2, 0x16, 0x0F, 7, 0x09] := by
  refine (and_iff_left_of_imp fun widened => ?_).mpr ?_
  · exact parse_eq_of_widened.1 _ _ [7, 0x09] widened (by decide) (by decide)
  · refine .cons ?listed <| .cons (.same _) <| .cons ?served <| .cons (.same _) <| .cons ?short .nil
    case listed => exact .lists rfl rfl (by decide) (by decide)
    case served => exact .serves rfl rfl (by decide) (by decide)
    case short => exact .serves rfl rfl (by decide) (by decide)

end BluetoothDiscovery
