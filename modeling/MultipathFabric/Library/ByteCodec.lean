import Mathlib.Data.List.Basic
import Mathlib.Tactic.Linarith

/-!
A little-endian, length-prefixed byte codec: a bounded writer, a reader over the remaining bytes, and
the rules that take a written sequence back.
-/

namespace ByteCodec

def littleEndian : Nat → Nat → List UInt8
  | 0, _ => []
  | k + 1, n => UInt8.ofNat (n % 256) :: littleEndian k (n / 256)

def fromLittleEndian : List UInt8 → Nat
  | [] => 0
  | b :: rest => b.toNat + 256 * fromLittleEndian rest

@[simp] theorem littleEndian_length (k n : Nat) : (littleEndian k n).length = k := by
  induction k generalizing n with
  | zero => rfl
  | succ k ih => simp [littleEndian, ih]

theorem fromLittleEndian_littleEndian (k n : Nat) (h : n < 256 ^ k) :
    fromLittleEndian (littleEndian k n) = n := by
  induction k generalizing n with
  | zero =>
      rw [pow_zero] at h
      simp only [littleEndian, fromLittleEndian]
      omega
  | succ k ih =>
      have hquot : n / 256 < 256 ^ k := by
        rw [Nat.div_lt_iff_lt_mul (by decide)]
        rwa [pow_succ] at h
      have hbyte : (UInt8.ofNat (n % 256)).toNat = n % 256 := by
        rw [UInt8.toNat_ofNat']
        omega
      rw [littleEndian, fromLittleEndian, ih _ hquot, hbyte]
      omega

theorem littleEndian_eight_inj {a b : UInt64} (same : littleEndian 8 a.toNat = littleEndian 8 b.toNat) : a = b := by
  have hread := congrArg fromLittleEndian same
  rw [fromLittleEndian_littleEndian 8 _ (UInt64.toNat_lt a), fromLittleEndian_littleEndian 8 _ (UInt64.toNat_lt b)] at hread
  exact UInt64.toNat_inj.mp hread

theorem littleEndian_fromLittleEndian (bytes : List UInt8) : littleEndian bytes.length (fromLittleEndian bytes) = bytes := by
  induction bytes with
  | nil => rfl
  | cons b rest ih =>
      have hlow : (b.toNat + 256 * fromLittleEndian rest) % 256 = b.toNat := by
        have hbyte := b.toNat_lt
        omega
      have hhigh : (b.toNat + 256 * fromLittleEndian rest) / 256 = fromLittleEndian rest := by
        have hbyte := b.toNat_lt
        omega
      rw [List.length_cons, littleEndian, fromLittleEndian, hlow, hhigh, ih, UInt8.ofNat_toNat]

theorem fromLittleEndian_lt (bytes : List UInt8) : fromLittleEndian bytes < 256 ^ bytes.length := by
  induction bytes with
  | nil => exact Nat.one_pos
  | cons b rest ih =>
      have hbyte := b.toNat_lt
      rw [List.length_cons, pow_succ, fromLittleEndian]
      omega

inductive Field
  | u8 (value : UInt8)
  | u16 (value : UInt16)
  | u32 (value : UInt32)
  | u64 (value : UInt64)
  | string (value : List UInt8) (bound : Nat)

namespace Field

def boolean (value : Bool) : Field := .u8 (if value then 1 else 0)

def bytes : Field → List UInt8
  | .u8 value => [value]
  | .u16 value => littleEndian 2 value.toNat
  | .u32 value => littleEndian 4 value.toNat
  | .u64 value => littleEndian 8 value.toNat
  | .string value _ => littleEndian 4 value.length ++ value

def fits : Field → Bool
  | .string value bound => decide (value.length ≤ bound) && decide (value.length < 2 ^ 32)
  | _ => true

theorem fits_string {value : List UInt8} {bound : Nat} :
    (Field.string value bound).fits = true ↔ value.length ≤ bound ∧ value.length < 2 ^ 32 := by
  simp [fits]

end Field

def encode (fields : List Field) : List UInt8 := fields.flatMap Field.bytes

@[simp] theorem encode_nil : encode [] = [] := rfl

@[simp] theorem encode_cons (f : Field) (fields : List Field) : encode (f :: fields) = f.bytes ++ encode fields :=
  rfl

@[simp] theorem encode_append (a b : List Field) : encode (a ++ b) = encode a ++ encode b := by
  simp [encode]

theorem length_le_encode (fields : List Field) : fields.length ≤ (encode fields).length := by
  induction fields with
  | nil => exact Nat.le_refl _
  | cons f rest ih =>
      have hfield : 1 ≤ f.bytes.length := by
        cases f <;> simp only [Field.bytes, List.length_append, littleEndian_length, List.length_singleton] <;> omega
      rw [encode_cons, List.length_append, List.length_cons]
      omega

theorem mul_length_le_encode {α : Type} {f : α → List Field} {l : List α} {width : ℕ}
    (h : ∀ a ∈ l, width ≤ (encode (f a)).length) : width * l.length ≤ (encode (l.flatMap f)).length := by
  induction l with
  | nil => exact Nat.zero_le _
  | cons a rest ih =>
      have hfirst := h a List.mem_cons_self
      have hrest := ih fun other hother => h other (List.mem_cons_of_mem _ hother)
      rw [List.flatMap_cons, encode_append, List.length_append, List.length_cons, Nat.mul_succ]
      omega

structure ByteWriter where
  buffer : List UInt8
  limit : Nat
  ok : Bool

namespace ByteWriter

def start (limit : Nat) : ByteWriter := ⟨[], limit, true⟩

def raw (w : ByteWriter) (data : List UInt8) : ByteWriter :=
  if !w.ok then w
  else if w.limit < data.length ∨ w.limit - data.length < w.buffer.length then { w with ok := false }
  else { w with buffer := w.buffer ++ data }

def write (w : ByteWriter) : Field → ByteWriter
  | .u8 value => w.raw [value]
  | .u16 value => w.raw (littleEndian 2 value.toNat)
  | .u32 value => w.raw (littleEndian 4 value.toNat)
  | .u64 value => w.raw (littleEndian 8 value.toNat)
  | .string value bound =>
      if bound < value.length ∨ 2 ^ 32 ≤ value.length then { w with ok := false }
      else (w.raw (littleEndian 4 value.length)).raw value

def writeAll (w : ByteWriter) (fields : List Field) : ByteWriter := fields.foldl write w

theorem raw_ok {w : ByteWriter} {data : List UInt8} :
    (w.raw data).ok = true ↔ w.ok = true ∧ w.buffer.length + data.length ≤ w.limit := by
  unfold raw
  cases hok : w.ok with
  | false => simp [hok]
  | true =>
      by_cases hbig : w.limit < data.length ∨ w.limit - data.length < w.buffer.length
      · simp only [hbig]
        simp
        omega
      · simp only [hbig]
        simp
        omega

theorem raw_eq {w : ByteWriter} {data : List UInt8} (h : (w.raw data).ok = true) :
    w.raw data = { w with buffer := w.buffer ++ data } := by
  unfold raw at h ⊢
  split
  · rename_i hnot
    simp_all
  · split
    · simp_all
    · rfl

theorem raw_bounded {w : ByteWriter} {data : List UInt8} (h : w.buffer.length ≤ w.limit) :
    (w.raw data).buffer.length ≤ (w.raw data).limit := by
  unfold raw
  split
  · exact h
  · split
    · exact h
    · change (w.buffer ++ data).length ≤ w.limit
      rw [List.length_append]
      omega

theorem write_bounded {w : ByteWriter} (f : Field) (h : w.buffer.length ≤ w.limit) :
    (w.write f).buffer.length ≤ (w.write f).limit := by
  cases f with
  | string value bound =>
      rw [write]
      split
      · exact h
      · exact raw_bounded (raw_bounded h)
  | _ => exact raw_bounded h

theorem write_ok {w : ByteWriter} {f : Field} :
    (w.write f).ok = true ↔
      w.ok = true ∧ f.fits = true ∧ w.buffer.length + f.bytes.length ≤ w.limit := by
  cases f with
  | string value bound =>
      rw [write]
      split
      · rename_i hbad
        simp only [Field.fits, Bool.and_eq_true, decide_eq_true_eq, Bool.false_eq_true, false_iff]
        omega
      · rename_i hgood
        have hfits : Field.fits (.string value bound) = true := by
          simp only [Field.fits, Bool.and_eq_true, decide_eq_true_eq]
          omega
        rw [raw_ok, raw_ok, hfits]
        constructor
        · rintro ⟨⟨hok, hfirst⟩, hsecond⟩
          have heq := raw_eq (raw_ok.mpr ⟨hok, hfirst⟩)
          rw [heq] at hsecond
          refine ⟨hok, rfl, ?_⟩
          simpa [Field.bytes, Nat.add_assoc] using hsecond
        · rintro ⟨hok, -, htotal⟩
          simp only [Field.bytes, List.length_append, littleEndian_length] at htotal
          have hfirst : w.buffer.length + (littleEndian 4 value.length).length ≤ w.limit := by
            rw [littleEndian_length]
            omega
          have heq := raw_eq (raw_ok.mpr ⟨hok, hfirst⟩)
          refine ⟨⟨hok, hfirst⟩, ?_⟩
          rw [heq]
          change (w.buffer ++ littleEndian 4 value.length).length + value.length ≤ w.limit
          rw [List.length_append, littleEndian_length]
          omega
  | _ =>
      rw [write, raw_ok]
      simp only [Field.fits, Field.bytes, true_and]

theorem write_eq {w : ByteWriter} {f : Field} (h : (w.write f).ok = true) :
    w.write f = { w with buffer := w.buffer ++ f.bytes } := by
  cases f with
  | string value bound =>
      rw [write] at h ⊢
      split at h
      · simp at h
      · rename_i hgood
        rw [if_neg hgood, raw_eq h, raw_eq (raw_ok.mp h).1]
        simp [Field.bytes]
  | _ => exact raw_eq h

theorem writeAll_ok {w : ByteWriter} {fields : List Field} (h : w.buffer.length ≤ w.limit) :
    (w.writeAll fields).ok = true ↔
      w.ok = true ∧ fields.all Field.fits = true ∧
        (fields ≠ [] → w.buffer.length + (encode fields).length ≤ w.limit) := by
  induction fields generalizing w with
  | nil => simp [writeAll]
  | cons f rest ih =>
      have hnext := ih (w := w.write f) (write_bounded f h)
      change ((w.write f).writeAll rest).ok = true ↔ _
      rw [hnext, write_ok, List.all_cons, Bool.and_eq_true, encode_cons, List.length_append]
      constructor
      · rintro ⟨⟨hok, hfits, hlen⟩, hrest, htotal⟩
        have heq := write_eq (write_ok.mpr ⟨hok, hfits, hlen⟩)
        refine ⟨hok, ⟨hfits, hrest⟩, fun _ => ?_⟩
        cases rest with
        | nil => simpa using hlen
        | cons g rest =>
            have hsum := htotal (by simp)
            rw [heq, List.length_append] at hsum
            change w.buffer.length + f.bytes.length + (encode (g :: rest)).length ≤ w.limit at hsum
            omega
      · rintro ⟨hok, ⟨hfits, hrest⟩, htotal⟩
        have hsum := htotal (by simp)
        have hlen : w.buffer.length + f.bytes.length ≤ w.limit := by omega
        have heq := write_eq (write_ok.mpr ⟨hok, hfits, hlen⟩)
        refine ⟨⟨hok, hfits, hlen⟩, hrest, fun _ => ?_⟩
        rw [heq, List.length_append]
        change w.buffer.length + f.bytes.length + (encode rest).length ≤ w.limit
        omega

theorem writeAll_eq {w : ByteWriter} {fields : List Field} (hbound : w.buffer.length ≤ w.limit)
    (h : (w.writeAll fields).ok = true) : w.writeAll fields = { w with buffer := w.buffer ++ encode fields } := by
  induction fields generalizing w with
  | nil => simp [writeAll]
  | cons f rest ih =>
      change ((w.write f).writeAll rest).ok = true at h
      change (w.write f).writeAll rest = _
      have hf : (w.write f).ok = true := ((writeAll_ok (write_bounded f hbound)).mp h).1
      rw [ih (write_bounded f hbound) h, write_eq hf]
      simp

theorem writeAll_buffer {w : ByteWriter} {fields : List Field} (hbound : w.buffer.length ≤ w.limit)
    (h : (w.writeAll fields).ok = true) : (w.writeAll fields).buffer = w.buffer ++ encode fields := by
  rw [writeAll_eq hbound h]

theorem writeAll_bounded {w : ByteWriter} {fields : List Field} (h : w.buffer.length ≤ w.limit) :
    (w.writeAll fields).buffer.length ≤ (w.writeAll fields).limit := by
  induction fields generalizing w with
  | nil => exact h
  | cons f rest ih => exact ih (write_bounded f h)

theorem start_ok (limit : Nat) (fields : List Field) :
    ((start limit).writeAll fields).ok = true ↔
      fields.all Field.fits = true ∧ (encode fields).length ≤ limit := by
  rw [writeAll_ok (by simp [start])]
  cases fields with
  | nil => simp [start]
  | cons f rest => simp [start]

theorem start_buffer {limit : Nat} {fields : List Field} (h : ((start limit).writeAll fields).ok = true) :
    ((start limit).writeAll fields).buffer = encode fields := by
  rw [writeAll_buffer (by simp [start]) h]
  rfl

end ByteWriter

abbrev Reader := StateT (List UInt8) Option

namespace Reader

def raw (count : Nat) : Reader (List UInt8) := fun bytes =>
  if count ≤ bytes.length then some (bytes.take count, bytes.drop count) else none

def number (width : Nat) : Reader Nat := fun bytes =>
  match raw width bytes with
  | some (taken, rest) => some (fromLittleEndian taken, rest)
  | none => none

def u8 : Reader UInt8 := fun bytes =>
  match bytes with
  | [] => none
  | b :: rest => some (b, rest)

def u16 : Reader UInt16 := fun bytes => (number 2 bytes).map fun read => (UInt16.ofNat read.1, read.2)

def u32 : Reader UInt32 := fun bytes => (number 4 bytes).map fun read => (UInt32.ofNat read.1, read.2)

def u64 : Reader UInt64 := fun bytes => (number 8 bytes).map fun read => (UInt64.ofNat read.1, read.2)

def boolean : Reader Bool := fun bytes =>
  match bytes with
  | [] => none
  | b :: rest => if 1 < b then none else some (b == 1, rest)

def string (bound : Nat) : Reader (List UInt8) := fun bytes =>
  match number 4 bytes with
  | none => none
  | some (length, rest) => if bound < length then none else raw length rest

def present {α : Type} (x : Option α) : Reader α := fun bytes => x.map fun value => (value, bytes)

/-- `p` takes `value` back off the front of whatever follows `bytes`. -/
def Takes {α : Type} (p : Reader α) (bytes : List UInt8) (value : α) : Prop :=
  ∀ rest, p (bytes ++ rest) = some (value, rest)

theorem raw_takes (data : List UInt8) : Takes (raw data.length) data data := by
  intro rest
  simp [raw]

theorem number_takes (width n : Nat) (h : n < 256 ^ width) :
    Takes (number width) (littleEndian width n) n := by
  intro rest
  have hraw := raw_takes (littleEndian width n) rest
  rw [littleEndian_length] at hraw
  simp only [number, hraw, fromLittleEndian_littleEndian width n h]

theorem u8_takes (value : UInt8) : Takes u8 (Field.u8 value).bytes value := fun _ => rfl

theorem u16_takes (value : UInt16) : Takes u16 (Field.u16 value).bytes value := by
  intro rest
  have hlt : value.toNat < 256 ^ 2 := value.toNat_lt
  simp only [u16, Field.bytes, number_takes 2 value.toNat hlt rest, Option.map_some, UInt16.ofNat_toNat]

theorem u32_takes (value : UInt32) : Takes u32 (Field.u32 value).bytes value := by
  intro rest
  have hlt : value.toNat < 256 ^ 4 := value.toNat_lt
  simp only [u32, Field.bytes, number_takes 4 value.toNat hlt rest, Option.map_some, UInt32.ofNat_toNat]

theorem u64_takes (value : UInt64) : Takes u64 (Field.u64 value).bytes value := by
  intro rest
  have hlt : value.toNat < 256 ^ 8 := value.toNat_lt
  simp only [u64, Field.bytes, number_takes 8 value.toNat hlt rest, Option.map_some, UInt64.ofNat_toNat]

theorem boolean_takes (value : Bool) : Takes boolean (Field.boolean value).bytes value := by
  intro rest
  cases value <;> rfl

theorem string_takes {value : List UInt8} {written bound : Nat} (hfits : (Field.string value written).fits = true)
    (hbound : written ≤ bound) : Takes (string bound) (Field.string value written).bytes value := by
  intro rest
  simp only [Field.fits, Bool.and_eq_true, decide_eq_true_eq] at hfits
  have hread := number_takes 4 value.length hfits.2 (value ++ rest)
  have hnot : ¬ bound < value.length := by omega
  simp only [string, Field.bytes, List.append_assoc, hread, hnot, if_false]
  exact raw_takes value rest

theorem Takes.pure {α : Type} (value : α) : Takes (pure value : Reader α) [] value := fun _ => rfl

theorem Takes.bind {α β : Type} {p : Reader α} {f : α → Reader β} {a b : List UInt8} {x : α} {y : β}
    (hp : Takes p a x) (hf : Takes (f x) b y) : Takes (p >>= f) (a ++ b) y := by
  intro rest
  change (p (a ++ b ++ rest)).bind (fun read => f read.1 read.2) = _
  rw [List.append_assoc, hp (b ++ rest)]
  exact hf rest

theorem Takes.run {α β : Type} {p : Reader α} {f : α → Reader β} {bytes rest : List UInt8} {x : α}
    (hp : Takes p bytes x) : (p >>= f) (bytes ++ rest) = f x rest := by
  change (p (bytes ++ rest)).bind (fun read => f read.1 read.2) = _
  rw [hp rest]
  rfl

theorem Takes.run_field {α β : Type} {p : Reader α} {k : α → Reader β} {f : Field} {fields : List Field}
    {rest : List UInt8} {x : α} (hp : Takes p f.bytes x) :
    (p >>= k) (encode (f :: fields) ++ rest) = k x (encode fields ++ rest) := by
  rw [encode_cons, List.append_assoc]
  exact hp.run

theorem Takes.run_fields {α β : Type} {p : Reader α} {k : α → Reader β} {first later : List Field}
    {rest : List UInt8} {x : α} (hp : Takes p (encode first) x) :
    (p >>= k) (encode (first ++ later) ++ rest) = k x (encode later ++ rest) := by
  rw [encode_append, List.append_assoc]
  exact hp.run

theorem bind_none {α β : Type} {p : Reader α} {f : α → Reader β} {bytes : List UInt8} (hp : p bytes = none) :
    (p >>= f) bytes = none := by
  change (p bytes).bind (fun read => f read.1 read.2) = _
  rw [hp]
  rfl

theorem present_takes {α : Type} {x : Option α} {value : α} (h : x = some value) :
    Takes (present x) [] value := by
  intro rest
  simp [present, h]

theorem Takes.bind_silent {α β : Type} {p : Reader α} {f : α → Reader β} {b : List UInt8} {x : α} {y : β}
    (hp : Takes p [] x) (hf : Takes (f x) b y) : Takes (p >>= f) b y := by
  simpa using hp.bind hf

theorem Takes.field {α β : Type} {p : Reader α} {k : α → Reader β} {f : Field} {fields : List Field} {x : α} {y : β}
    (hp : Takes p f.bytes x) (hk : Takes (k x) (encode fields) y) : Takes (p >>= k) (encode (f :: fields)) y :=
  hp.bind hk

theorem Takes.fields {α β : Type} {p : Reader α} {k : α → Reader β} {first rest : List Field} {x : α} {y : β}
    (hp : Takes p (encode first) x) (hk : Takes (k x) (encode rest) y) :
    Takes (p >>= k) (encode (first ++ rest)) y := by
  rw [encode_append]
  exact hp.bind hk

theorem Takes.only {α : Type} {p : Reader α} {f : Field} {x : α} (hp : Takes p f.bytes x) :
    Takes p (encode [f]) x := by
  rwa [encode_cons, encode_nil, List.append_nil]

def Returns {α : Type} (p : Reader α) (bytes : List UInt8) (value : α) : Prop :=
  ∀ rest read, p (bytes ++ rest) = some read → read = (value, rest)

theorem Takes.returns {α : Type} {p : Reader α} {bytes : List UInt8} {value : α} (h : Takes p bytes value) :
    Returns p bytes value := by
  intro rest read hread
  rw [h rest] at hread
  exact (Option.some.inj hread).symm

theorem present_returns {α : Type} {x : Option α} {value : α} (h : ∀ v, x = some v → v = value) :
    Returns (present x) [] value := by
  intro rest read hread
  obtain ⟨v, hv, rfl⟩ := Option.map_eq_some_iff.mp hread
  rw [h v hv]
  rfl

theorem Returns.bind {α β : Type} {p : Reader α} {f : α → Reader β} {a b : List UInt8} {x : α} {y : β}
    (hp : Returns p a x) (hf : Returns (f x) b y) : Returns (p >>= f) (a ++ b) y := by
  intro rest read h
  change (p (a ++ b ++ rest)).bind (fun read => f read.1 read.2) = _ at h
  obtain ⟨first, hfirst, h⟩ := Option.bind_eq_some_iff.mp h
  rw [List.append_assoc] at hfirst
  rw [hp (b ++ rest) first hfirst] at h
  exact hf rest read h

theorem Returns.bind_silent {α β : Type} {p : Reader α} {f : α → Reader β} {b : List UInt8} {x : α} {y : β}
    (hp : Returns p [] x) (hf : Returns (f x) b y) : Returns (p >>= f) b y := by
  simpa using hp.bind hf

theorem Returns.field {α β : Type} {p : Reader α} {k : α → Reader β} {f : Field} {fields : List Field} {x : α} {y : β}
    (hp : Takes p f.bytes x) (hk : Returns (k x) (encode fields) y) : Returns (p >>= k) (encode (f :: fields)) y :=
  hp.returns.bind hk

/-- What the reader accepts is the writing of the value that it returns. -/
def Exact {α : Type} (p : Reader α) (written : α → List UInt8) : Prop :=
  ∀ bytes value rest, p bytes = some (value, rest) → bytes = written value ++ rest

theorem number_exact (width : ℕ) {bytes rest : List UInt8} {n : ℕ} (h : number width bytes = some (n, rest)) :
    bytes = littleEndian width n ++ rest ∧ n < 256 ^ width := by
  unfold number raw at h
  by_cases hwidth : width ≤ bytes.length
  · rw [if_pos hwidth] at h
    cases h
    have hlength : (bytes.take width).length = width := List.length_take_of_le hwidth
    have hwritten := littleEndian_fromLittleEndian (bytes.take width)
    have hbound := fromLittleEndian_lt (bytes.take width)
    rw [hlength] at hwritten hbound
    rw [hwritten, List.take_append_drop]
    exact ⟨rfl, hbound⟩
  · rw [if_neg hwidth] at h
    cases h

theorem u16_exact : Exact u16 fun value => (Field.u16 value).bytes := by
  intro bytes value rest h
  obtain ⟨⟨n, _⟩, hnumber, hvalue⟩ := Option.map_eq_some_iff.mp h
  cases hvalue
  obtain ⟨hbytes, hbound⟩ := number_exact 2 hnumber
  change bytes = littleEndian 2 (UInt16.ofNat n).toNat ++ _
  rw [UInt16.toNat_ofNat', Nat.mod_eq_of_lt (by norm_num at hbound; exact hbound)]
  exact hbytes

theorem u32_exact : Exact u32 fun value => (Field.u32 value).bytes := by
  intro bytes value rest h
  obtain ⟨⟨n, _⟩, hnumber, hvalue⟩ := Option.map_eq_some_iff.mp h
  cases hvalue
  obtain ⟨hbytes, hbound⟩ := number_exact 4 hnumber
  change bytes = littleEndian 4 (UInt32.ofNat n).toNat ++ _
  rw [UInt32.toNat_ofNat', Nat.mod_eq_of_lt (by norm_num at hbound; exact hbound)]
  exact hbytes

theorem u64_exact : Exact u64 fun value => (Field.u64 value).bytes := by
  intro bytes value rest h
  obtain ⟨⟨n, _⟩, hnumber, hvalue⟩ := Option.map_eq_some_iff.mp h
  cases hvalue
  obtain ⟨hbytes, hbound⟩ := number_exact 8 hnumber
  change bytes = littleEndian 8 (UInt64.ofNat n).toNat ++ _
  rw [UInt64.toNat_ofNat', Nat.mod_eq_of_lt (by norm_num at hbound; exact hbound)]
  exact hbytes

theorem bind_some {α β : Type} {p : Reader α} {f : α → Reader β} {bytes : List UInt8} {result : β × List UInt8}
    (h : (p >>= f) bytes = some result) : ∃ value rest, p bytes = some (value, rest) ∧ f value rest = some result := by
  obtain ⟨⟨value, rest⟩, hp, hf⟩ := Option.bind_eq_some_iff.mp h
  exact ⟨value, rest, hp, hf⟩

end Reader

abbrev Decoder (ε : Type) := StateT (List UInt8) (Except ε)

namespace Decoder

variable {ε α β : Type}

/-- Runs a group of reads; a failure anywhere in it is the one error `failure`. -/
def group (p : Reader α) (failure : ε) : Decoder ε α := fun bytes =>
  match p bytes with
  | some read => .ok read
  | none => .error failure

def check (condition : Bool) (failure : ε) : Decoder ε Unit := fun bytes =>
  if condition then .ok ((), bytes) else .error failure

def present (x : Option α) (failure : ε) : Decoder ε α := fun bytes =>
  match x with
  | some value => .ok (value, bytes)
  | none => .error failure

def times (p : Decoder ε α) : Nat → Decoder ε (List α)
  | 0 => pure []
  | n + 1 => do
      let first ← p
      let rest ← times p n
      pure (first :: rest)

def Takes (p : Decoder ε α) (bytes : List UInt8) (value : α) : Prop :=
  ∀ rest, p (bytes ++ rest) = .ok (value, rest)

theorem group_takes {p : Reader α} {bytes : List UInt8} {value : α} {failure : ε} (h : Reader.Takes p bytes value) :
    Takes (group p failure) bytes value := by
  intro rest
  simp only [group, h rest]

theorem check_takes {condition : Bool} {failure : ε} (h : condition = true) :
    Takes (check condition failure) [] () := by
  intro rest
  simp [check, h]

theorem present_takes {x : Option α} {value : α} {failure : ε} (h : x = some value) :
    Takes (present x failure) [] value := by
  intro rest
  simp [present, h]

theorem Takes.pure (value : α) : Takes (pure value : Decoder ε α) [] value := fun _ => rfl

theorem Takes.bind {p : Decoder ε α} {f : α → Decoder ε β} {a b : List UInt8} {x : α} {y : β}
    (hp : Takes p a x) (hf : Takes (f x) b y) : Takes (p >>= f) (a ++ b) y := by
  intro rest
  change (p (a ++ b ++ rest)).bind (fun read => f read.1 read.2) = _
  rw [List.append_assoc, hp (b ++ rest)]
  exact hf rest

theorem Takes.bind_silent {p : Decoder ε α} {f : α → Decoder ε β} {b : List UInt8} {x : α} {y : β}
    (hp : Takes p [] x) (hf : Takes (f x) b y) : Takes (p >>= f) b y := by
  simpa using hp.bind hf

theorem Takes.fields {p : Decoder ε α} {k : α → Decoder ε β} {first rest : List Field} {x : α} {y : β}
    (hp : Takes p (encode first) x) (hk : Takes (k x) (encode rest) y) :
    Takes (p >>= k) (encode (first ++ rest)) y := by
  rw [encode_append]
  exact hp.bind hk

theorem Takes.last {p : Decoder ε α} {f : α → Decoder ε β} {b : List UInt8} {x : α} {y : β}
    (hp : Takes p b x) (hf : Takes (f x) [] y) : Takes (p >>= f) b y := by
  simpa using hp.bind hf

theorem Takes.assoc {γ : Type} {p : Decoder ε α} {f : α → Decoder ε β} {k : β → Decoder ε γ} {bytes : List UInt8} {y : γ}
    (h : Takes (p >>= f >>= k) bytes y) : Takes (p >>= fun x => f x >>= k) bytes y := by
  rwa [bind_assoc] at h

theorem Takes.run {p : Decoder ε α} {f : α → Decoder ε β} {bytes rest : List UInt8} {x : α}
    (hp : Takes p bytes x) : (p >>= f) (bytes ++ rest) = f x rest := by
  change (p (bytes ++ rest)).bind (fun read => f read.1 read.2) = _
  rw [hp rest]
  rfl

theorem Takes.run_silent {p : Decoder ε α} {f : α → Decoder ε β} {rest : List UInt8} {x : α}
    (hp : Takes p [] x) : (p >>= f) rest = f x rest := by
  have hrun : (p >>= f) ([] ++ rest) = f x rest := hp.run
  exact hrun

theorem bind_ok {p : Decoder ε α} {f : α → Decoder ε β} {bytes : List UInt8} {result : β × List UInt8}
    (h : (p >>= f) bytes = .ok result) : ∃ a rest, p bytes = .ok (a, rest) ∧ f a rest = .ok result := by
  change (p bytes).bind (fun read => f read.1 read.2) = _ at h
  cases hp : p bytes with
  | error failure =>
      rw [hp] at h
      cases h
  | ok read =>
      rw [hp] at h
      exact ⟨read.1, read.2, rfl, h⟩

theorem bind_error {p : Decoder ε α} {f : α → Decoder ε β} {bytes : List UInt8} {failure : ε}
    (hp : p bytes = .error failure) : (p >>= f) bytes = .error failure := by
  change (p bytes).bind (fun read => f read.1 read.2) = _
  rw [hp]
  rfl

theorem times_takes {p : Decoder ε α} {written : α → List UInt8} {values : List α}
    (h : ∀ value ∈ values, Takes p (written value) value) :
    Takes (times p values.length) (values.flatMap written) values := by
  induction values with
  | nil => exact Takes.pure []
  | cons value rest ih =>
      have hfirst := h value List.mem_cons_self
      have hrest := ih fun other hother => h other (List.mem_cons_of_mem _ hother)
      have hpure : Takes (Pure.pure (value :: rest) : Decoder ε (List α)) [] (value :: rest) := Takes.pure _
      have hall := hfirst.bind (f := fun first => times p rest.length >>= fun others => Pure.pure (first :: others))
        (hrest.bind (f := fun others => Pure.pure (value :: others)) hpure)
      simpa [times] using hall

def Returns (p : Decoder ε α) (bytes : List UInt8) (value : α) : Prop :=
  ∀ rest result, p (bytes ++ rest) = .ok result → result = (value, rest)

theorem Takes.returns {p : Decoder ε α} {bytes : List UInt8} {value : α} (h : Takes p bytes value) :
    Returns p bytes value := by
  intro rest result hresult
  rw [h rest] at hresult
  exact (Except.ok.inj hresult).symm

theorem group_returns {p : Reader α} {bytes : List UInt8} {value : α} {failure : ε} (h : Reader.Returns p bytes value) :
    Returns (group p failure) bytes value := by
  intro rest result hresult
  unfold group at hresult
  split at hresult
  · rename_i read hread
    rw [← Except.ok.inj hresult]
    exact h rest read hread
  · cases hresult

theorem present_returns {x : Option α} {value : α} {failure : ε} (h : ∀ v, x = some v → v = value) :
    Returns (present x failure) [] value := by
  intro rest result hresult
  unfold present at hresult
  split at hresult
  · rename_i v
    rw [← Except.ok.inj hresult, h v rfl]
    rfl
  · cases hresult

theorem check_returns {condition : Bool} {failure : ε} : Returns (check condition failure) [] () := by
  intro rest result hresult
  unfold check at hresult
  split at hresult
  · exact (Except.ok.inj hresult).symm
  · cases hresult

theorem Returns.run {p : Decoder ε α} {f : α → Decoder ε β} {bytes rest : List UInt8} {x : α} {result : β × List UInt8}
    (hp : Returns p bytes x) (h : (p >>= f) (bytes ++ rest) = .ok result) : f x rest = .ok result := by
  change (p (bytes ++ rest)).bind (fun read => f read.1 read.2) = _ at h
  cases hread : p (bytes ++ rest) with
  | error failure =>
      rw [hread] at h
      cases h
  | ok read =>
      rw [hread] at h
      rw [hp rest read hread] at h
      exact h

theorem Returns.run_silent {p : Decoder ε α} {f : α → Decoder ε β} {rest : List UInt8} {x : α}
    {result : β × List UInt8} (hp : Returns p [] x) (h : (p >>= f) rest = .ok result) : f x rest = .ok result := by
  have happend : (p >>= f) ([] ++ rest) = .ok result := h
  exact hp.run happend

theorem check_run {condition : Bool} {failure : ε} {f : Unit → Decoder ε β} {rest : List UInt8}
    {result : β × List UInt8} (h : (check condition failure >>= f) rest = .ok result) :
    condition = true ∧ f () rest = .ok result := by
  refine ⟨?_, check_returns.run_silent h⟩
  cases condition with
  | true => rfl
  | false => cases h

theorem Returns.bind {p : Decoder ε α} {f : α → Decoder ε β} {a b : List UInt8} {x : α} {y : β}
    (hp : Returns p a x) (hf : Returns (f x) b y) : Returns (p >>= f) (a ++ b) y := by
  intro rest result h
  rw [List.append_assoc] at h
  exact hf rest result (hp.run h)

theorem Returns.bind_silent {p : Decoder ε α} {f : α → Decoder ε β} {b : List UInt8} {x : α} {y : β}
    (hp : Returns p [] x) (hf : Returns (f x) b y) : Returns (p >>= f) b y := by
  simpa using hp.bind hf

theorem Returns.fields {p : Decoder ε α} {k : α → Decoder ε β} {first rest : List Field} {x : α} {y : β}
    (hp : Returns p (encode first) x) (hk : Returns (k x) (encode rest) y) :
    Returns (p >>= k) (encode (first ++ rest)) y := by
  rw [encode_append]
  exact hp.bind hk

theorem Returns.last {p : Decoder ε α} {f : α → Decoder ε β} {b : List UInt8} {x : α} {y : β}
    (hp : Returns p b x) (hf : Returns (f x) [] y) : Returns (p >>= f) b y := by
  simpa using hp.bind hf

theorem times_returns {p : Decoder ε α} {written : α → List UInt8} {values : List α}
    (h : ∀ value ∈ values, Returns p (written value) value) :
    Returns (times p values.length) (values.flatMap written) values := by
  induction values with
  | nil => exact (Takes.pure []).returns
  | cons value rest ih =>
      rw [List.flatMap_cons]
      refine (h value List.mem_cons_self).bind ((ih fun other hother => ?_).last (Takes.pure _).returns)
      exact h other (List.mem_cons_of_mem _ hother)

def Yields (p : Decoder ε α) (good : α → Prop) : Prop := ∀ bytes value rest, p bytes = .ok (value, rest) → good value

theorem Yields.any {p : Decoder ε α} : Yields p fun _ => True := fun _ _ _ _ => trivial

theorem Yields.pure {good : α → Prop} {value : α} (h : good value) : Yields (pure value : Decoder ε α) good := by
  intro bytes other rest hresult
  rw [← (Prod.mk.inj (Except.ok.inj hresult)).1]
  exact h

theorem Yields.bind {p : Decoder ε α} {f : α → Decoder ε β} {good : α → Prop} {better : β → Prop} (hp : Yields p good)
    (hf : ∀ a, good a → Yields (f a) better) : Yields (p >>= f) better := by
  intro bytes value rest h
  change (p bytes).bind (fun read => f read.1 read.2) = _ at h
  cases hread : p bytes with
  | error failure =>
      rw [hread] at h
      cases h
  | ok read =>
      rw [hread] at h
      exact hf read.1 (hp bytes read.1 read.2 hread) read.2 value rest h

theorem Yields.after {p : Decoder ε α} {f : α → Decoder ε β} {good : β → Prop} (hf : ∀ a, Yields (f a) good) :
    Yields (p >>= f) good :=
  .bind .any fun a _ => hf a

theorem check_yields {condition : Bool} {failure : ε} : Yields (check condition failure) fun _ => condition = true := by
  intro bytes value rest h
  cases condition with
  | true => rfl
  | false => cases h

def Fails (p : Decoder ε α) (kind : ε → Prop) : Prop := ∀ bytes failure, p bytes = .error failure → kind failure

variable {kind : ε → Prop}

theorem Fails.pure (value : α) : Fails (pure value : Decoder ε α) kind := by
  intro bytes failure h
  cases h

theorem Fails.bind {p : Decoder ε α} {f : α → Decoder ε β} (hp : Fails p kind) (hf : ∀ a, Fails (f a) kind) :
    Fails (p >>= f) kind := by
  intro bytes failure h
  change (p bytes >>= fun x => f x.1 x.2) = _ at h
  cases hread : p bytes with
  | error other =>
      rw [hread] at h
      cases h
      exact hp bytes failure hread
  | ok x =>
      rw [hread] at h
      exact hf x.1 x.2 failure h

theorem Fails.group {p : Reader α} {failure : ε} (h : kind failure) : Fails (group p failure) kind := by
  intro bytes other hfail
  unfold Decoder.group at hfail
  split at hfail
  · cases hfail
  · cases hfail
    exact h

theorem Fails.present {x : Option α} {failure : ε} (h : kind failure) : Fails (present x failure) kind := by
  intro bytes other hfail
  cases x with
  | none =>
      cases hfail
      exact h
  | some a => cases hfail

theorem Fails.check {condition : Bool} {failure : ε} (h : kind failure) : Fails (check condition failure) kind := by
  intro bytes other hfail
  cases condition with
  | false =>
      cases hfail
      exact h
  | true => cases hfail

theorem Fails.times {p : Decoder ε α} (h : Fails p kind) (n : ℕ) : Fails (times p n) kind := by
  induction n with
  | zero => exact .pure _
  | succ n ih => exact .bind h fun _ => .bind ih fun _ => .pure _

end Decoder

end ByteCodec
