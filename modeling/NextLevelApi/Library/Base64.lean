import Mathlib.Data.List.Basic
import Mathlib.Data.Nat.Notation

/-!
# Base64

Three octets become four sextets; a last group of one or two octets becomes two or three
sextets. `encode` writes no padding and takes the alphabet as a parameter: `urlAlphabet` is
the one of base64url. `encodePadded` is the standard form, and `decode` reads both.
-/

namespace Base64

def utf8 (s : String) : List UInt8 := s.toByteArray.data.toList

@[simp] lemma utf8_append (s t : String) : utf8 (s ++ t) = utf8 s ++ utf8 t := by
  simp [utf8]

lemma utf8_injective : Function.Injective utf8 := by
  intro s t h
  exact String.toByteArray_inj.mp (ByteArray.ext (Array.ext' h))

lemma length_utf8_ofList (cs : List Char) : cs.length ≤ (utf8 (String.ofList cs)).length := by
  have hbytes : ∀ cs : List Char, cs.length ≤ (cs.flatMap String.utf8EncodeChar).length := by
    intro cs
    induction cs with
    | nil => simp
    | cons c cs ih =>
      have hc : 0 < c.utf8Size := Char.utf8Size_pos c
      simp only [List.flatMap_cons, List.length_append, List.length_cons, String.length_utf8EncodeChar]
      omega
  simpa [utf8, List.utf8Encode] using hbytes cs

lemma length_le_utf8 (s : String) : s.length ≤ (utf8 s).length := by
  have h := length_utf8_ofList s.toList
  rwa [String.ofList_toList, String.length_toList] at h

/-! ### Sextets -/

def sextets : List ℕ → List ℕ
  | a :: b :: c :: rest =>
    (a / 4) :: (a % 4 * 16 + b / 16) :: (b % 16 * 4 + c / 64) :: (c % 64) :: sextets rest
  | [a, b] => [a / 4, a % 4 * 16 + b / 16, b % 16 * 4]
  | [a] => [a / 4, a % 4 * 16]
  | [] => []

/-- The octets that a list of sextets stands for. -/
def octets : List ℕ → List ℕ
  | w :: x :: y :: z :: rest =>
    (w * 4 + x / 16) :: (x % 16 * 16 + y / 4) :: (y % 4 * 64 + z) :: octets rest
  | [w, x, y] => [w * 4 + x / 16, x % 16 * 16 + y / 4]
  | [w, x] => [w * 4 + x / 16]
  | [_] => []
  | [] => []

theorem octets_sextets (bs : List ℕ) (h : ∀ b ∈ bs, b < 256) : octets (sextets bs) = bs := by
  induction bs using sextets.induct with
  | case1 a b c rest ih =>
    simp only [List.mem_cons, forall_eq_or_imp] at h
    obtain ⟨ha, hb, hc, hrest⟩ := h
    simp only [sextets, octets, ih hrest, List.cons.injEq, and_true]
    refine ⟨by omega, by omega, by omega⟩
  | case2 a b =>
    simp only [List.mem_cons, List.not_mem_nil, or_false, forall_eq_or_imp, forall_eq] at h
    simp only [sextets, octets, List.cons.injEq, and_true]
    refine ⟨by omega, by omega⟩
  | case3 a =>
    simp only [List.mem_cons, List.not_mem_nil, or_false, forall_eq] at h
    simp only [sextets, octets, List.cons.injEq, and_true]
    omega
  | case4 => rfl

lemma sextets_lt (bs : List ℕ) (h : ∀ b ∈ bs, b < 256) : ∀ x ∈ sextets bs, x < 64 := by
  induction bs using sextets.induct with
  | case1 a b c rest ih =>
    simp only [List.mem_cons, forall_eq_or_imp] at h
    obtain ⟨ha, hb, hc, hrest⟩ := h
    simp only [sextets, List.mem_cons, forall_eq_or_imp]
    refine ⟨by omega, by omega, by omega, by omega, ih hrest⟩
  | case2 a b =>
    simp only [List.mem_cons, List.not_mem_nil, or_false, forall_eq_or_imp, forall_eq] at h
    simp only [sextets, List.mem_cons, List.not_mem_nil, or_false, forall_eq_or_imp, forall_eq]
    refine ⟨by omega, by omega, by omega⟩
  | case3 a =>
    simp only [List.mem_cons, List.not_mem_nil, or_false, forall_eq] at h
    simp only [sextets, List.mem_cons, List.not_mem_nil, or_false, forall_eq_or_imp, forall_eq]
    refine ⟨by omega, by omega⟩
  | case4 => simp [sextets]

/-- A prefix of whole groups is encoded on its own. -/
lemma sextets_append (k : ℕ) (bs cs : List ℕ) (h : bs.length = 3 * k) :
    sextets (bs ++ cs) = sextets bs ++ sextets cs ∧ (sextets bs).length = 4 * k := by
  induction k generalizing bs with
  | zero =>
    obtain rfl := List.length_eq_zero_iff.mp h
    exact ⟨rfl, rfl⟩
  | succ k ih =>
    match bs, h with
    | a :: b :: c :: rest, h =>
      obtain ⟨happ, hlen⟩ := ih rest (by simp only [List.length_cons] at h; omega)
      simp only [List.cons_append, sextets, happ, List.length_cons, hlen, true_and]
      omega

/-! ### Text -/

/-- The text of some octets over the alphabet `digit`. -/
def encode (digit : ℕ → Char) (bs : List UInt8) : String :=
  String.ofList ((sextets (bs.map UInt8.toNat)).map digit)

lemma map_toNat_lt (bs : List UInt8) : ∀ b ∈ bs.map UInt8.toNat, b < 256 := by
  intro b hb
  obtain ⟨u, -, rfl⟩ := List.mem_map.mp hb
  exact u.toNat_lt

theorem encode_append (digit : ℕ → Char) (k : ℕ) (bs cs : List UInt8) (h : bs.length = 3 * k) :
    encode digit (bs ++ cs) = encode digit bs ++ encode digit cs := by
  have happ := (sextets_append k (bs.map UInt8.toNat) (cs.map UInt8.toNat) (by simpa using h)).1
  simp only [encode, List.map_append, happ, String.ofList_append]

lemma length_encode (digit : ℕ → Char) (k : ℕ) (bs : List UInt8) (h : bs.length = 3 * k) :
    (encode digit bs).length = 4 * k := by
  have hlen := (sextets_append k (bs.map UInt8.toNat) [] (by simpa using h)).2
  simpa [encode] using hlen

theorem encode_injective {digit : ℕ → Char} {value : Char → ℕ}
    (hvalue : ∀ i, i < 64 → value (digit i) = i) : Function.Injective (encode digit) := by
  intro bs cs h
  have hread : ∀ ds : List UInt8,
      ((sextets (ds.map UInt8.toNat)).map digit).map value = sextets (ds.map UInt8.toNat) := by
    intro ds
    rw [List.map_map]
    refine (List.map_congr_left ?_).trans (List.map_id _)
    exact fun x hx => hvalue x (sextets_lt _ (map_toNat_lt ds) x hx)
  have hsextets := congrArg (List.map value) (String.ofList_injective h)
  rw [hread, hread] at hsextets
  have hoctets := congrArg octets hsextets
  rw [octets_sextets _ (map_toNat_lt bs), octets_sextets _ (map_toNat_lt cs)] at hoctets
  exact List.map_injective_iff.mpr (fun a b => UInt8.toNat_inj.mp) hoctets

def urlAlphabet : List Char :=
  "ABCDEFGHIJKLMNOPQRSTUVWXYZabcdefghijklmnopqrstuvwxyz0123456789-_".toList

def urlDigit (sextet : ℕ) : Char := urlAlphabet.getD sextet 'A'

def urlValue (c : Char) : ℕ := urlAlphabet.idxOf c

lemma urlValue_urlDigit (i : ℕ) (hi : i < 64) : urlValue (urlDigit i) = i := by
  have hall : ∀ i < 64, urlValue (urlDigit i) = i := by decide +kernel
  exact hall i hi

lemma urlDigit_ne_dot (i : ℕ) : urlDigit i ≠ '.' := by
  have hmem : '.' ∉ 'A' :: urlAlphabet := by decide +kernel
  unfold urlDigit
  rw [List.getD_eq_getElem?_getD]
  intro h
  cases hi : urlAlphabet[i]? with
  | none =>
    rw [hi] at h
    exact hmem (by rw [← h]; simp)
  | some c =>
    rw [hi] at h
    exact hmem (List.mem_cons_of_mem _ (by rw [← h]; exact List.mem_of_getElem? hi))

/-- base64url without padding. -/
def encodeUrl (bs : List UInt8) : String := encode urlDigit bs

lemma encodeUrl_injective : Function.Injective encodeUrl := encode_injective urlValue_urlDigit

lemma dot_not_mem_encodeUrl (bs : List UInt8) : '.' ∉ (encodeUrl bs).toList := by
  simp only [encodeUrl, encode, String.toList_ofList, List.mem_map, not_exists, not_and]
  exact fun x _ => urlDigit_ne_dot x

example : encodeUrl (utf8 "\x7b\"alg\":\"HS256\"") = "eyJhbGciOiJIUzI1NiI" := by decide +kernel

/-! ### Padded text and its reader -/

def standardAlphabet : List Char :=
  "ABCDEFGHIJKLMNOPQRSTUVWXYZabcdefghijklmnopqrstuvwxyz0123456789+/".toList

def standardDigit (sextet : ℕ) : Char := standardAlphabet.getD sextet 'A'

/-- base64 in the standard alphabet, the last group filled up with `=`. -/
def encodePadded (bs : List UInt8) : String :=
  String.ofList ((sextets (bs.map UInt8.toNat)).map standardDigit ++
    List.replicate ((3 - bs.length % 3) % 3) '=')

/-- The sextet that a character code stands for in either alphabet. -/
def sextet? (code : ℕ) : Option ℕ :=
  ((standardAlphabet.map Char.toNat).idxOf? code).or ((urlAlphabet.map Char.toNat).idxOf? code)

/-- Reads up to the first `=` and passes over what is in neither alphabet. Sextets that are
too few for an octet are dropped. -/
def decode (codes : List ℕ) : List UInt8 :=
  (octets ((codes.takeWhile (· ≠ '='.toNat)).filterMap sextet?)).map UInt8.ofNat

lemma sextet?_standardDigit (i : ℕ) (hi : i < 64) : sextet? (standardDigit i).toNat = some i := by
  have hall : ∀ i < 64, sextet? (standardDigit i).toNat = some i := by decide +kernel
  exact hall i hi

lemma standardDigit_ne_pad (i : ℕ) (hi : i < 64) : (standardDigit i).toNat ≠ '='.toNat := by
  have hall : ∀ i < 64, (standardDigit i).toNat ≠ '='.toNat := by decide +kernel
  exact hall i hi

lemma standardDigit_lt (i : ℕ) (hi : i < 64) : (standardDigit i).toNat < 128 := by
  have hall : ∀ i < 64, (standardDigit i).toNat < 128 := by decide +kernel
  exact hall i hi

lemma isAscii_encodePadded (bs : List UInt8) : ∀ c ∈ (encodePadded bs).toList, c.toNat < 128 := by
  intro c hc
  simp only [encodePadded, String.toList_ofList, List.mem_append, List.mem_map] at hc
  cases hc with
  | inl hc =>
    obtain ⟨x, hx, rfl⟩ := hc
    exact standardDigit_lt x (sextets_lt _ (map_toNat_lt bs) x hx)
  | inr hc =>
    rw [List.eq_of_mem_replicate hc]
    decide

theorem decode_encodePadded (bs : List UInt8) :
    decode ((encodePadded bs).toList.map Char.toNat) = bs := by
  have hlt := sextets_lt _ (map_toNat_lt bs)
  have hread : ((sextets (bs.map UInt8.toNat)).map fun x => (standardDigit x).toNat).filterMap sextet? =
      sextets (bs.map UInt8.toNat) := by
    rw [List.filterMap_map]
    refine (List.filterMap_congr ?_).trans List.filterMap_some
    exact fun x hx => sextet?_standardDigit x (hlt x hx)
  have htake : (((encodePadded bs).toList.map Char.toNat).takeWhile (· ≠ '='.toNat)) =
      (sextets (bs.map UInt8.toNat)).map fun x => (standardDigit x).toNat := by
    simp only [encodePadded, String.toList_ofList, List.map_append, List.map_map, List.map_replicate]
    rw [List.takeWhile_append_of_pos, List.takeWhile_replicate]
    · simp [Function.comp_def]
    · intro code hcode
      obtain ⟨x, hx, rfl⟩ := List.mem_map.mp hcode
      simpa using standardDigit_ne_pad x (hlt x hx)
  rw [decode, htake, hread, octets_sextets _ (map_toNat_lt bs), List.map_map]
  refine (List.map_congr_left ?_).trans (List.map_id _)
  exact fun b _ => UInt8.ofNat_toNat

example : encodePadded (utf8 "Hi") = "SGk=" := by decide +kernel

end Base64
