import CaptureSieve.Proofs.Instant.Calendar
import Mathlib.Data.List.DropRight

/-!
Times as text, in the notation of RFC 3339: what the digits of a date and a time of day are, and that they are written.
-/

namespace CaptureSieve

namespace Instant

structure Digits (width value : Nat) (text : List Char) : Prop where
  length : text.length = width
  decimal : ∀ c ∈ text, c.isDigit
  value : Nat.ofDigitChars 10 text 0 = value

/-- The digits of a fraction of a second, without those that add nothing. -/
structure FractionDigits (nanos : Nat) (text : List Char) : Prop where
  length : text.length ≤ 9
  decimal : ∀ c ∈ text, c.isDigit
  value : 10 ^ (9 - text.length) * Nat.ofDigitChars 10 text 0 = nanos
  needed : ∀ c ∈ text.getLast?, c ≠ '0'

structure DateTime where
  year : List Char
  month : List Char
  day : List Char
  hour : List Char
  minute : List Char
  second : List Char
  fraction : List Char

def DateTime.text (d : DateTime) : List Char :=
  d.year ++ '-' :: d.month ++ '-' :: d.day ++ 'T' :: d.hour ++ ':' :: d.minute ++ ':' :: d.second ++
    (if d.fraction = [] then [] else '.' :: d.fraction) ++ ['Z']

structure DateTime.Of (seconds nanos : Nat) (d : DateTime) : Prop where
  year : Digits 4 (CalendarDate.next^[seconds / 86400] .epoch).year d.year
  month : Digits 2 (CalendarDate.next^[seconds / 86400] .epoch).month d.month
  day : Digits 2 (CalendarDate.next^[seconds / 86400] .epoch).day d.day
  hour : Digits 2 (seconds / 3600 % 24) d.hour
  minute : Digits 2 (seconds / 60 % 60) d.minute
  second : Digits 2 (seconds % 60) d.second
  fraction : FractionDigits nanos d.fraction

def Renders (t : Instant) (text : String) : Prop :=
  ∃ d : DateTime, d.Of (t.nanos / 1_000_000_000) (t.nanos % 1_000_000_000) ∧ text.toList = d.text

lemma toList_padded (width n : Nat) : (padded width n).toList =
    List.replicate (width - (Nat.toDigits 10 n).length) '0' ++ Nat.toDigits 10 n := by
  simp only [padded, String.toList_append, String.toList_ofList, Nat.toString_eq_ofList_toDigits, String.length_ofList]

lemma digits_padded {width n : Nat} (hw : 0 < width) (h : n < 10 ^ width) : Digits width n (padded width n).toList := by
  have hlength : (Nat.toDigits 10 n).length ≤ width := (Nat.length_toDigits_le_iff (by decide) hw).mpr h
  rw [toList_padded]
  constructor
  · rw [List.length_append, List.length_replicate]
    omega
  · intro c hc
    rcases List.mem_append.mp hc with hzero | hdigit
    · rw [List.eq_of_mem_replicate hzero]
      rfl
    · exact Nat.isDigit_of_mem_toDigits (by decide) (by decide) hdigit
  · rw [Nat.ofDigitChars_append, Nat.ofDigitChars_replicate_zero, Nat.mul_zero, Nat.ofDigitChars_ten_toDigits]

lemma digits_two {n : Nat} (h : n < 100) : Digits 2 n (padded 2 n).toList := digits_padded (by decide) h

lemma digits_four {n : Nat} (h : n < 10000) : Digits 4 n (padded 4 n).toList := digits_padded (by decide) h

lemma digits_nine {n : Nat} (h : n < 1_000_000_000) : Digits 9 n (padded 9 n).toList := digits_padded (by decide) h

lemma fractionDigits_of_digits {nanos : Nat} {text : List Char} (h : Digits 9 nanos text) :
    FractionDigits nanos (text.rdropWhile (· == '0')) := by
  have hsplit := List.rdropWhile_append_rtakeWhile (p := (· == '0')) (l := text)
  have hzeros : text.rtakeWhile (· == '0') = List.replicate (text.rtakeWhile (· == '0')).length '0' :=
    List.eq_replicate_of_mem fun c hc => by simpa using List.mem_rtakeWhile_imp hc
  have hlength := congrArg List.length hsplit
  rw [List.length_append, h.length] at hlength
  constructor
  · omega
  · exact fun c hc => h.decimal c ((List.rdropWhile_prefix _ _).subset hc)
  · have hvalue := h.value
    rw [← hsplit, Nat.ofDigitChars_append, hzeros, Nat.ofDigitChars_replicate_zero] at hvalue
    rw [← hvalue, ← hlength, Nat.add_sub_cancel_left]
  · intro c hc
    have hne : text.rdropWhile (· == '0') ≠ [] := List.ne_nil_of_mem (List.mem_of_getLast? hc)
    have hlast := List.rdropWhile_last_not (· == '0') text hne
    rw [List.getLast?_eq_some_getLast hne] at hc
    obtain rfl := Option.some.inj hc
    simpa using hlast

lemma toList_fractionText {nanos : Nat} (h : nanos < 1_000_000_000) :
    (fractionText nanos).toList = if (padded 9 nanos).toList.rdropWhile (· == '0') = [] then []
      else '.' :: (padded 9 nanos).toList.rdropWhile (· == '0') := by
  have hdigits := fractionDigits_of_digits (digits_nine h)
  rw [fractionText]
  split
  · next hzero =>
    subst hzero
    rw [if_pos]
    · exact String.toList_empty
    · simp [List.rdropWhile_eq_nil_iff, toList_padded]
  · next hzero =>
    rw [if_neg]
    · simp [String.toList_append, String.toList_ofList, List.rdropWhile]
    · intro hnone
      have hvalue := hdigits.value
      rw [hnone] at hvalue
      exact hzero (by simpa using hvalue.symm)

def dateTime (t : Instant) : DateTime :=
  let date := CalendarDate.ofDays (t.seconds / 86400)
  let second := t.seconds % 86400
  { year := (padded 4 date.year).toList
    month := (padded 2 date.month).toList
    day := (padded 2 date.day).toList
    hour := (padded 2 (second / 3600)).toList
    minute := (padded 2 (second / 60 % 60)).toList
    second := (padded 2 (second % 60)).toList
    fraction := (padded 9 t.subsecond).toList.rdropWhile (· == '0') }

lemma dateTime_of {t : Instant} (h : (CalendarDate.ofDays (t.seconds / 86400)).year < 10000) :
    t.dateTime.Of t.seconds t.subsecond := by
  obtain ⟨⟨-, hmonth⟩, -, hday⟩ := CalendarDate.valid_iterate (t.seconds / 86400)
  have hlength := CalendarDate.monthLength_bounds (CalendarDate.next^[t.seconds / 86400] .epoch).year
    (CalendarDate.next^[t.seconds / 86400] .epoch).month
  have hhour : t.seconds % 86400 / 3600 = t.seconds / 3600 % 24 := by omega
  have hminute : t.seconds % 86400 / 60 % 60 = t.seconds / 60 % 60 := by omega
  have hsecond : t.seconds % 86400 % 60 = t.seconds % 60 := by omega
  rw [CalendarDate.ofDays_eq_iterate] at h
  simp only [dateTime, CalendarDate.ofDays_eq_iterate, hhour, hminute, hsecond]
  constructor <;> dsimp only
  · exact digits_four h
  · exact digits_two (Nat.lt_of_le_of_lt hmonth (by decide))
  · exact digits_two (Nat.lt_of_le_of_lt (Nat.le_trans hday hlength.2) (by decide))
  · exact digits_two (Nat.lt_trans (Nat.mod_lt _ (by decide)) (by decide))
  · exact digits_two (Nat.lt_trans (Nat.mod_lt _ (by decide)) (by decide))
  · exact digits_two (Nat.lt_trans (Nat.mod_lt _ (by decide)) (by decide))
  · exact fractionDigits_of_digits (digits_nine (Nat.mod_lt _ (by decide)))

lemma DateTime.text_eq (d : DateTime) : d.text =
    d.year ++ "-".toList ++ d.month ++ "-".toList ++ d.day ++ "T".toList ++ d.hour ++ ":".toList ++ d.minute ++
      ":".toList ++ d.second ++ (if d.fraction = [] then [] else '.' :: d.fraction) ++ "Z".toList := by
  simp [text]

lemma toList_of_rfc3339? {t : Instant} {text : String} (h : t.rfc3339? = some text) :
    (CalendarDate.ofDays (t.seconds / 86400)).year < 10000 ∧ text.toList = t.dateTime.text := by
  have hsubsecond : t.subsecond < 1_000_000_000 := Nat.mod_lt _ (by decide)
  simp only [rfc3339?, dateTime] at h ⊢
  split at h
  · next hyear =>
    obtain rfl := Option.some.inj h
    refine ⟨hyear, ?_⟩
    rw [DateTime.text_eq]
    simp only [String.toList_append, toList_fractionText hsubsecond]
  · simp at h

theorem renders_of_rfc3339? {t : Instant} {text : String} (h : t.rfc3339? = some text) : t.Renders text := by
  obtain ⟨hyear, htext⟩ := toList_of_rfc3339? h
  exact ⟨t.dateTime, dateTime_of hyear, htext⟩

end Instant

end CaptureSieve
