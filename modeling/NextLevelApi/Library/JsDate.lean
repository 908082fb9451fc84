import NextLevelApi.Library.Calendar

/-!
# Dates as JavaScript reads them

The texts of dates and times, the instants that they name in a time zone, in seconds since
1 January 1970 UTC, and the day that the clocks of the zone show at an instant. A text names the
day it is written with as long as the clocks are not too far from those that it was written by.
-/

namespace JsDate
open Calendar

/-! ### Time zones -/

/-- `offset t` is how far the clocks are ahead of UTC at `t`, `toInstant l` what the local time
`l` is read as: an instant at which they show it or, where they are put forward over it, the
one by the offset from before. -/
structure TimeZone where
  offset : ℤ → ℤ
  toInstant : ℤ → ℤ
  shown : ∀ t, toInstant (t + offset t) + offset (toInstant (t + offset t)) = t + offset t
  notShown : ∀ l, (∀ t, t + offset t ≠ l) →
    ∃ t, t + offset t < l ∧ l < t + 1 + offset (t + 1) ∧ toInstant l = l - offset t

namespace TimeZone

/-- The clocks are never changed. -/
def fixed (offset : ℤ) : TimeZone where
  offset _ := offset
  toInstant l := l - offset
  shown t := by omega
  notShown l h := absurd (Int.sub_add_cancel l offset) (h (l - offset))

def localDay (zone : TimeZone) (t : ℤ) : Date := .ofDays ((t + zone.offset t) / 86400)

/-- How far the clocks have been put forward over a local time. -/
def skipped (zone : TimeZone) (l : ℤ) : ℤ := zone.toInstant l + zone.offset (zone.toInstant l) - l

variable {zone : TimeZone} {l : ℤ}

lemma skipped_eq_zero_iff : zone.skipped l = 0 ↔ ∃ t, t + zone.offset t = l := by
  constructor
  · intro h
    refine ⟨zone.toInstant l, ?_⟩
    unfold skipped at h
    omega
  · rintro ⟨t, rfl⟩
    rw [skipped, zone.shown, Int.sub_self]

/-- A local time that is skipped is read as an instant behind a change of the offset, and shown
later by that change. -/
lemma skipped_eq_of_notShown (h : ∀ t, t + zone.offset t ≠ l) :
    ∃ t, t < zone.toInstant l ∧ zone.skipped l = zone.offset (zone.toInstant l) - zone.offset t := by
  obtain ⟨t, hbefore, -, hread⟩ := zone.notShown l h
  refine ⟨t, ?_, ?_⟩
  · omega
  · unfold skipped
    omega

end TimeZone

/-! ### Texts -/

structure ClockTime where
  hour : ℕ
  minute : ℕ
  second : ℕ
  valid : hour < 24 ∧ minute < 60 ∧ second < 60
  deriving DecidableEq

/-- `±hh:mm`, or `±hhmm` without the colon. -/
structure UtcOffset where
  negative : Bool
  hour : ℕ
  colon : Bool
  minute : ℕ
  valid : hour < 24 ∧ minute < 60
  deriving DecidableEq

/-- What stands behind a time. -/
inductive ZoneText
  | none
  | z
  | offset (o : UtcOffset)
  deriving DecidableEq

/-- A text `YYYY-MM-DD` or `YYYY-MM-DDThh:mm:ss`, the latter with or without `Z` or an offset. -/
structure DateText where
  date : Date
  year_mem : 0 ≤ date.year ∧ date.year < 10000
  time : Option (ClockTime × ZoneText)
  deriving DecidableEq

def ClockTime.text (time : ClockTime) : List Char :=
  padded 2 time.hour ++ ':' :: (padded 2 time.minute ++ ':' :: padded 2 time.second)

def UtcOffset.text (o : UtcOffset) : List Char :=
  (if o.negative then '-' else '+') ::
    (padded 2 o.hour ++ ((if o.colon then [':'] else []) ++ padded 2 o.minute))

def ZoneText.text : ZoneText → List Char
  | none => []
  | z => ['Z']
  | offset o => o.text

def DateText.text (form : DateText) : List Char :=
  match form.time with
  | none => form.date.text
  | some (time, zone) => form.date.text ++ 'T' :: (time.text ++ zone.text)

/-! ### Reading -/

def ClockTime.read (text : List Char) : Option (ClockTime × List Char) := do
  let (hour, text) ← field 2 text
  let text ← literal ':' text
  let (minute, text) ← field 2 text
  let text ← literal ':' text
  let (second, text) ← field 2 text
  if h : hour < 24 ∧ minute < 60 ∧ second < 60 then some (⟨hour, minute, second, h⟩, text) else none

/-- Whether the text begins with a colon, and what follows that. -/
def optionalColon : List Char → Bool × List Char
  | ':' :: text => (true, text)
  | text => (false, text)

/-- An offset that ends the text, behind its sign. -/
def UtcOffset.read (negative : Bool) (text : List Char) : Option UtcOffset := do
  let (hour, text) ← field 2 text
  let (colon, text) := optionalColon text
  let (minute, text) ← field 2 text
  if h : (hour < 24 ∧ minute < 60) ∧ text = [] then some ⟨negative, hour, colon, minute, h.1⟩ else none

def ZoneText.read : List Char → Option ZoneText
  | [] => some none
  | ['Z'] => some z
  | '+' :: text => (UtcOffset.read false text).map offset
  | '-' :: text => (UtcOffset.read true text).map offset
  | _ => .none

def DateText.parse (text : List Char) : Option DateText := do
  let (date, text) ← Date.read text
  if h : 0 ≤ date.year ∧ date.year < 10000 then
    match text with
    | [] => some ⟨date, h, none⟩
    | 'T' :: text => do
      let (time, text) ← ClockTime.read text
      let zone ← ZoneText.read text
      some ⟨date, h, some (time, zone)⟩
    | _ => none
  else none

lemma ClockTime.read_text (time : ClockTime) (rest : List Char) :
    read (time.text ++ rest) = some (time, rest) := by
  have hvalid := time.valid
  simp only [read, text, List.append_assoc, List.cons_append, Option.bind_eq_bind]
  rw [field_padded (by omega) (by omega)]
  simp only [Option.bind_some, literal_cons]
  rw [field_padded (by omega) (by omega)]
  simp only [Option.bind_some, literal_cons]
  rw [field_padded (by omega) (by omega)]
  exact dif_pos hvalid

lemma optionalColon_padded (colon : Bool) (width n : ℕ) :
    optionalColon ((if colon then [':'] else []) ++ padded width n) = (colon, padded width n) := by
  cases colon with
  | true => rfl
  | false =>
    cases hdigits : padded width n with
    | nil => rfl
    | cons c digits =>
      have hdigit : c.isDigit = true := isDigit_of_mem_padded (hdigits ▸ List.mem_cons_self)
      have hcolon : c ≠ ':' := by
        rintro rfl
        exact absurd hdigit (by decide)
      simp [optionalColon, hcolon]

lemma UtcOffset.read_text (o : UtcOffset) :
    read o.negative (padded 2 o.hour ++ ((if o.colon then [':'] else []) ++ padded 2 o.minute)) = some o := by
  have hvalid := o.valid
  have hminute := @field_padded 2 o.minute (by omega) (by omega) []
  rw [List.append_nil] at hminute
  simp only [read, Option.bind_eq_bind]
  rw [field_padded (by omega) (by omega)]
  simp only [Option.bind_some, optionalColon_padded, hminute]
  rw [dif_pos ⟨hvalid, trivial⟩]

lemma ZoneText.read_text (zone : ZoneText) : read zone.text = some zone := by
  cases zone with
  | none => rfl
  | z => rfl
  | offset o =>
    have hread := congrArg (Option.map offset) o.read_text
    obtain ⟨_ | _, hour, colon, minute, hvalid⟩ := o
    · exact hread
    · exact hread

theorem DateText.parse_text (form : DateText) : parse form.text = some form := by
  obtain ⟨date, hyear, time⟩ := form
  cases time with
  | none =>
    have hread := Date.read_text hyear []
    rw [List.append_nil] at hread
    simp only [parse, text, hread, Option.bind_eq_bind, Option.bind_some]
    exact dif_pos hyear
  | some time =>
    obtain ⟨time, zone⟩ := time
    simp only [parse, text, Date.read_text hyear, Option.bind_eq_bind, Option.bind_some]
    rw [dif_pos hyear]
    simp only [ClockTime.read_text, ZoneText.read_text, Option.bind_some]

/-! ### Instants -/

def ClockTime.seconds (time : ClockTime) : ℤ := 3600 * time.hour + 60 * time.minute + time.second

def UtcOffset.seconds (o : UtcOffset) : ℤ :=
  if o.negative then -(3600 * o.hour + 60 * o.minute) else 3600 * o.hour + 60 * o.minute

namespace DateText

/-- The second of its day that the text names, by its own clock. -/
def seconds (form : DateText) : ℤ :=
  match form.time with
  | none => 0
  | some (time, _) => time.seconds

/-- A date alone is midnight UTC, a time without an offset is local time. -/
def instant (zone : TimeZone) (form : DateText) : ℤ :=
  match form.time with
  | none => 86400 * form.date.toDays
  | some (time, .none) => zone.toInstant (86400 * form.date.toDays + time.seconds)
  | some (time, .z) => 86400 * form.date.toDays + time.seconds
  | some (time, .offset o) => 86400 * form.date.toDays + time.seconds - o.seconds

/-- How far the clocks of the zone are ahead of the one that the text is written by. -/
def shift (zone : TimeZone) (form : DateText) : ℤ :=
  match form.time with
  | none => zone.offset (form.instant zone)
  | some (time, .none) => zone.skipped (86400 * form.date.toDays + time.seconds)
  | some (_, .z) => zone.offset (form.instant zone)
  | some (_, .offset o) => zone.offset (form.instant zone) - o.seconds

lemma instant_add_offset (zone : TimeZone) (form : DateText) :
    form.instant zone + zone.offset (form.instant zone) =
      86400 * form.date.toDays + (form.seconds + form.shift zone) := by
  obtain ⟨date, hyear, time⟩ := form
  rcases time with _ | ⟨time, _ | _ | o⟩ <;> simp only [instant, seconds, shift, TimeZone.skipped] <;> omega

/-- The zone shows the day of the text if and only if its clocks are not a midnight away. -/
theorem localDay_instant_iff (zone : TimeZone) (form : DateText) :
    zone.localDay (form.instant zone) = form.date ↔
      0 ≤ form.seconds + form.shift zone ∧ form.seconds + form.shift zone < 86400 := by
  rw [TimeZone.localDay, Date.ofDays_eq_iff, instant_add_offset]
  omega

end DateText

end JsDate
