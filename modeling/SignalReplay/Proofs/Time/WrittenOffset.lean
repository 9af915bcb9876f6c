import SignalReplay.Proofs.Failure
import SignalReplay.Time.Timestamp

/-!
Offsets that a timestamp writes. A pattern with an offset names one in every text that it reads, but
the offset is taken off only where the text writes a time of day in full; elsewhere the date alone
counts, as universal time.
-/

namespace SignalReplay

namespace CivilTime

def behind (time : CivilTime) (offset : Int) : CivilTime :=
  ⟨time.second - offset, time.nano⟩

@[simp]
theorem behind_zero (time : CivilTime) : time.behind 0 = time := by
  rw [behind, Int.sub_zero]

theorem eq_zero_of_behind {time : CivilTime} {offset : Int} (same : time = time.behind offset) :
    offset = 0 := by
  have seconds : time.second = time.second - offset := congrArg CivilTime.second same
  omega

end CivilTime

theorem Instant.ofParts?_eq_some_iff {second : Int} {nano : Nat} {instant : Instant} :
    ofParts? second nano = some instant ↔ instant.civil = ⟨second, nano⟩ := by
  constructor
  · intro made
    unfold ofParts? at made
    split at made
    · split at made
      · split at made
        · cases made
          rfl
        · cases made
      · cases made
    · cases made
  · intro same
    cases same
    rw [ofParts?, dif_pos instant.date_in_range, dif_pos instant.nano_lt,
      dif_pos instant.leap_closes_minute]

theorem Instant.ofCivil?_eq_some_iff {time : CivilTime} {instant : Instant} :
    ofCivil? time = some instant ↔ instant.civil = time :=
  ofParts?_eq_some_iff

/-! ## Parts that items name -/

namespace TimeFields

variable {fields named : TimeFields} {offset : Int}

theorem offset_of_agree [DecidableEq α] {known : Option α} {value : α}
    {set : Option α → TimeFields}
    (put : (agree known value >>= fun agreed => pure (set agreed)) = .ok named)
    (apart : ∀ agreed, (set agreed).offset = fields.offset) : named.offset = fields.offset := by
  rcases bind_eq_ok_iff.mp put with ⟨agreed, _, equal⟩
  cases equal
  exact apart agreed

theorem offset_put {field : NumberField} {value : Int} (put : fields.put field value = .ok named) :
    named.offset = fields.offset := by
  cases field with
  | hour =>
      rcases bind_eq_ok_iff.mp put with ⟨hour, _, put⟩
      rcases bind_eq_ok_iff.mp put with ⟨halved, half, put⟩
      have kept : halved.offset = fields.offset := offset_of_agree half fun _ => rfl
      exact offset_of_agree put fun _ => kept
  | _ =>
      repeat rcases bind_eq_ok_iff.mp put with ⟨_, _, put⟩
      cases put
      rfl

theorem offset_putOffset (put : fields.putOffset offset = .ok named) :
    named.offset = some offset ∧ ∀ before, fields.offset = some before → before = offset := by
  rcases bind_eq_ok_iff.mp put with ⟨agreed, agrees, equal⟩
  cases equal
  unfold agree at agrees
  split at agrees
  · next fresh =>
      cases agrees
      refine ⟨rfl, fun before known => ?_⟩
      rw [fresh] at known
      cases known
  · next earlier known =>
      split at agrees
      · next same =>
          cases agrees
          rw [known, same]
          exact ⟨rfl, fun before => Eq.symm ∘ Option.some.inj⟩
      · cases agrees

end TimeFields

namespace TimeScan

variable {fields named : TimeFields} {text rest : List Char} {next : PatternItem} {offset : Int}

/-- What an item does to the offset: it leaves it as it is, or it names one. -/
theorem offset_item (scanned : item fields text next = .ok (named, rest)) :
    named.offset = fields.offset ∨ ∃ offset, fields.putOffset offset = .ok named := by
  cases next with
  | offset style =>
      rcases bind_eq_ok_iff.mp scanned with ⟨⟨seconds, after⟩, _, scanned⟩
      rcases bind_eq_ok_iff.mp scanned with ⟨after, put, equal⟩
      cases equal
      exact .inr ⟨seconds, put⟩
  | zone =>
      rw [item] at scanned
      dsimp only at scanned
      split at scanned
      · rcases bind_eq_ok_iff.mp scanned with ⟨after, put, equal⟩
        cases equal
        exact .inr ⟨0, put⟩
      · rcases bind_eq_ok_iff.mp scanned with ⟨⟨seconds, after⟩, _, scanned⟩
        rcases bind_eq_ok_iff.mp scanned with ⟨after, put, equal⟩
        cases equal
        exact .inr ⟨seconds, put⟩
  | number field =>
      rw [item] at scanned
      dsimp only at scanned
      split at scanned
      all_goals
        rcases bind_eq_ok_iff.mp scanned with ⟨⟨value, after⟩, _, scanned⟩
        rcases bind_eq_ok_iff.mp scanned with ⟨after, put, equal⟩
        cases equal
        exact .inl (TimeFields.offset_put put)
  | literal characters =>
      rcases bind_eq_ok_iff.mp scanned with ⟨_, _, equal⟩
      cases equal
      exact .inl rfl
  | blanks | zoneName =>
      cases scanned
      exact .inl rfl
  | dateTimeMark =>
      rw [item.eq_def] at scanned
      dsimp only at scanned
      split at scanned
      all_goals
        cases scanned
      all_goals
        exact .inl rfl
  | unknown => cases scanned
  | monthName long | weekdayName long | halfDay | fractionDigits count =>
      rcases bind_eq_ok_iff.mp scanned with ⟨⟨place, after⟩, _, scanned⟩
      rcases bind_eq_ok_iff.mp scanned with ⟨after, put, equal⟩
      cases equal
      exact .inl (TimeFields.offset_of_agree put fun _ => rfl)
  | fraction | pointedDigits count =>
      rw [item.eq_def] at scanned
      dsimp only at scanned
      split at scanned
      · rcases bind_eq_ok_iff.mp scanned with ⟨⟨nano, after⟩, _, scanned⟩
        rcases bind_eq_ok_iff.mp scanned with ⟨after, put, equal⟩
        cases equal
        exact .inl (TimeFields.offset_of_agree put fun _ => rfl)
      · cases scanned
        exact .inl rfl

theorem offset_items {pattern : List PatternItem} (known : fields.offset = some offset)
    (scanned : items fields text pattern = .ok (named, rest)) : named.offset = some offset := by
  induction pattern generalizing fields text with
  | nil =>
      cases scanned
      exact known
  | cons next pattern induction =>
      rcases bind_eq_ok_iff.mp scanned with ⟨⟨between, after⟩, first, others⟩
      refine induction ?_ others
      rcases offset_item first with kept | ⟨given, put⟩
      · rw [kept, known]
      · rcases TimeFields.offset_putOffset put with ⟨named, agrees⟩
        rw [named, agrees offset known]

theorem isSome_offset_items {pattern : List PatternItem} {style : OffsetStyle}
    (member : .offset style ∈ pattern) (scanned : items fields text pattern = .ok (named, rest)) :
    ∃ offset, named.offset = some offset := by
  induction pattern generalizing fields text with
  | nil => cases member
  | cons next pattern induction =>
      rcases bind_eq_ok_iff.mp scanned with ⟨⟨between, after⟩, first, others⟩
      rcases List.mem_cons.mp member with rfl | member
      · rcases bind_eq_ok_iff.mp first with ⟨⟨offset, remaining⟩, _, first⟩
        rcases bind_eq_ok_iff.mp first with ⟨given, put, equal⟩
        cases equal
        exact ⟨offset, offset_items (TimeFields.offset_putOffset put).1 others⟩
      · exact induction member others

end TimeScan

/-! ## Offsets that are taken off -/

namespace TimeFields

variable {fields : TimeFields} {offset : Int} {time : CivilTime} {instant : Instant}

def namesTimeOfDay (fields : TimeFields) : Bool :=
  fields.halfOfDay.isSome || fields.hourOfHalf.isSome || fields.minute.isSome ||
    fields.second.isSome || fields.nanosecond.isSome

/-- The local date and time that the parts write. A date alone stands for its midnight. -/
inductive WritesLocal (fields : TimeFields) : CivilTime → Prop
  | inFull {time : CivilTime} (combined : fields.combine = .ok time) : WritesLocal fields time
  | dateAlone {date : Date} (noTime : fields.namesTimeOfDay = false)
      (dated : fields.date = .ok date) : WritesLocal fields (.midnight date)

theorem namesTimeOfDay_of_combine (combined : fields.combine = .ok time) :
    fields.namesTimeOfDay = true := by
  rcases bind_eq_ok_iff.mp combined with ⟨date, _, combined⟩
  rcases bind_eq_ok_iff.mp combined with ⟨clock, timed, _⟩
  rcases bind_eq_ok_iff.mp timed with ⟨half, halved, _⟩
  rw [namesTimeOfDay]
  cases known : fields.halfOfDay with
  | none =>
      rw [known] at halved
      cases halved
  | some half => rfl

theorem civil_eq_combine (noUnixSecond : fields.unixSecond = none) (offset : Int) :
    fields.civil offset = fields.combine := by
  rw [civil, noUnixSecond]
  cases fields.combine <;> rfl

/-- Reading with the offset: the local time less an offset of under a day. -/
theorem instant_eq_ok_iff (named : fields.offset = some offset) :
    fields.instant = .ok instant ↔ ∃ time, fields.civil offset = .ok time ∧
      offset.natAbs < 86400 ∧ instant.civil = time.behind offset := by
  rw [TimeFields.instant, named]
  change (fields.civil offset >>= _) = _ ↔ _
  rw [bind_eq_ok_iff]
  refine exists_congr fun time => and_congr_right fun _ => ?_
  rw [CivilTime.behind, ← Instant.ofParts?_eq_some_iff]
  split
  · cases Instant.ofParts? (time.second - offset) time.nano <;> simp [*]
  · simp [*]

end TimeFields

namespace Timestamp

variable {fields : TimeFields} {offset : Int} {instant : Instant}

theorem elim_eq_ok_iff {found : Option α} {fault : ε} {value : α} :
    found.elim (.error fault) .ok = (.ok value : Except ε α) ↔ found = some value := by
  cases found <;> simp

theorem resolve_eq_ok_iff : resolve fields = .ok instant ↔
    fields.instant = .ok instant ∨
      (∃ fault, fields.instant = .error fault) ∧ withoutOffset fields = .ok instant := by
  rw [resolve]
  cases fields.instant <;> simp

theorem withoutOffset_eq_ok_iff : withoutOffset fields = .ok instant ↔
    fields.civil 0 = .ok instant.civil ∨
      ∃ fault date, fields.civil 0 = .error fault ∧ fields.date = .ok date ∧
        instant.civil = .midnight date := by
  rw [withoutOffset]
  cases fields.civil 0 with
  | ok time =>
      dsimp only
      rw [elim_eq_ok_iff, Instant.ofCivil?_eq_some_iff]
      simp [eq_comm]
  | error fault =>
      cases fields.date with
      | error other => simp
      | ok date =>
          dsimp only
          rw [elim_eq_ok_iff, Instant.ofCivil?_eq_some_iff]
          simp

/-- Which instants are the local time less the offset, if no Unix second is named. -/
theorem resolve_honours_iff (named : fields.offset = some offset)
    (noUnixSecond : fields.unixSecond = none) (resolved : resolve fields = .ok instant) :
    (∃ time, fields.WritesLocal time ∧ instant.civil = time.behind offset) ↔
      (∃ time, fields.combine = .ok time ∧ offset.natAbs < 86400 ∧
        ∃ meant : Instant, meant.civil = time.behind offset) ∨
      offset = 0 ∧ fields.namesTimeOfDay = false := by
  have taken (found : Instant) : fields.instant = .ok found ↔ ∃ time,
      fields.combine = .ok time ∧ offset.natAbs < 86400 ∧ found.civil = time.behind offset := by
    rw [TimeFields.instant_eq_ok_iff named, TimeFields.civil_eq_combine noUnixSecond]
  rcases resolve_eq_ok_iff.mp resolved with honoured | ⟨⟨fault, failed⟩, dropped⟩
  · rcases (taken instant).mp honoured with ⟨time, combined, small, less⟩
    exact iff_of_true ⟨time, .inFull combined, less⟩ (.inl ⟨time, combined, small, instant, less⟩)
  have notTaken (found : Instant) : ¬ ∃ time, fields.combine = .ok time ∧
      offset.natAbs < 86400 ∧ found.civil = time.behind offset := by
    rw [← taken found, failed]
    exact fun equal => by cases equal
  rw [withoutOffset_eq_ok_iff, TimeFields.civil_eq_combine noUnixSecond] at dropped
  rcases dropped with combined | ⟨other, date, incomplete, dated, midnight⟩
  · -- A full local time that is read without its offset has one that cannot be taken off.
    have timed := TimeFields.namesTimeOfDay_of_combine combined
    apply iff_of_false
    · rintro ⟨time, writes, less⟩
      cases writes with
      | inFull again =>
          cases combined.symm.trans again
          obtain rfl := CivilTime.eq_zero_of_behind less
          exact notTaken instant ⟨_, combined, by decide, less⟩
      | dateAlone noTime =>
          rw [timed] at noTime
          cases noTime
    · rintro (⟨time, again, small, meant, less⟩ | ⟨_, noTime⟩)
      · exact notTaken meant ⟨time, again, small, less⟩
      · rw [timed] at noTime
        cases noTime
  · constructor
    · rintro ⟨time, writes, less⟩
      cases writes with
      | inFull combined =>
          rw [incomplete] at combined
          cases combined
      | dateAlone noTime again =>
          cases dated.symm.trans again
          rw [midnight] at less
          exact .inr ⟨CivilTime.eq_zero_of_behind less, noTime⟩
    · rintro (⟨time, combined, _⟩ | ⟨rfl, noTime⟩)
      · rw [incomplete] at combined
        cases combined
      · exact ⟨_, .dateAlone noTime dated, by rw [midnight, CivilTime.behind_zero]⟩

def CarriesOffset (pattern : String) : Prop :=
  ∃ style, .offset style ∈ Pattern.ofText pattern.toList

def Names (pattern text : String) (fields : TimeFields) : Prop :=
  TimeScan.fields (Pattern.ofText pattern.toList) (Text.trim text).toList = .ok fields

/-- An instant is the local date and time of a text less the offset of the text. -/
def HonoursOffset (pattern text : String) (instant : Instant) : Prop :=
  ∃ fields offset time, Names pattern text fields ∧ fields.offset = some offset ∧
    fields.WritesLocal time ∧ instant.civil = time.behind offset

variable {pattern text : String}

theorem read_eq_ok_iff : read pattern text = .ok instant ↔
    ∃ fields, Names pattern text fields ∧ resolve fields = .ok instant := by
  unfold read
  dsimp only
  rw [mapError_eq_ok_iff, bind_eq_ok_iff]
  rfl

theorem Names.unique {other : TimeFields} (names : Names pattern text fields)
    (again : Names pattern text other) : fields = other :=
  Except.ok.inj (names.symm.trans again)

theorem offset_of_names (carries : CarriesOffset pattern) (names : Names pattern text fields) :
    ∃ offset, fields.offset = some offset := by
  rcases carries with ⟨style, member⟩
  rcases bind_eq_ok_iff.mp names with ⟨⟨scanned, rest⟩, reads, ended⟩
  have named := TimeScan.isSome_offset_items member reads
  dsimp only at ended
  split at ended
  · cases ended
    exact named
  · cases ended

/-- A text that a pattern with an offset reads names an offset. It is taken off wherever the parts
give a local time at that offset; without a Unix second among them, that is where a time of day is
written in full and the offset is less than a day. Elsewhere the instant honours the offset only if
it is zero. -/
theorem honoursOffset_iff (carries : CarriesOffset pattern)
    (accepted : read pattern text = .ok instant) :
    ∃ fields offset, Names pattern text fields ∧ fields.offset = some offset ∧
      (∀ time, ∀ meant : Instant, fields.civil offset = .ok time → offset.natAbs < 86400 →
        meant.civil = time.behind offset → instant = meant) ∧
      (fields.unixSecond = none → (HonoursOffset pattern text instant ↔
        (∃ time, fields.combine = .ok time ∧ offset.natAbs < 86400 ∧
          ∃ meant : Instant, meant.civil = time.behind offset) ∨
        offset = 0 ∧ fields.namesTimeOfDay = false)) := by
  rcases read_eq_ok_iff.mp accepted with ⟨fields, names, resolved⟩
  rcases offset_of_names carries names with ⟨offset, named⟩
  refine ⟨fields, offset, names, named, ?_, fun noUnixSecond => ?_⟩
  · intro time meant given small less
    have honoured := (TimeFields.instant_eq_ok_iff named).mpr ⟨time, given, small, less⟩
    rw [resolve, honoured] at resolved
    exact (Except.ok.inj resolved).symm
  · rw [← resolve_honours_iff named noUnixSecond resolved]
    constructor
    · rintro ⟨others, other, time, again, otherNamed, writes, less⟩
      obtain rfl := names.unique again
      cases named.symm.trans otherNamed
      exact ⟨time, writes, less⟩
    · rintro ⟨time, writes, less⟩
      exact ⟨fields, offset, time, names, named, writes, less⟩

def aheadOnDay : TimeFields :=
  { year := some 2024, month := some 3, day := some 1, offset := some 7200 }

def aheadAfterNoon : TimeFields :=
  { aheadOnDay with
    halfOfDay := some 1, hourOfHalf := some 0, minute := some 30, second := some 0 }

theorem offset_of_time_honoured :
    CarriesOffset "%Y-%m-%d %H:%M:%S %z" ∧
      ∃ instant, read "%Y-%m-%d %H:%M:%S %z" "2024-03-01 12:30:00 +0200" = .ok instant ∧
        instant.micros = 1709289000000000 ∧
        HonoursOffset "%Y-%m-%d %H:%M:%S %z" "2024-03-01 12:30:00 +0200" instant := by
  have carries : CarriesOffset "%Y-%m-%d %H:%M:%S %z" := ⟨⟨false, false⟩, by decide +kernel⟩
  have names : Names "%Y-%m-%d %H:%M:%S %z" "2024-03-01 12:30:00 +0200" aheadAfterNoon := by
    rw [Names, ← toOption_eq_some_iff]
    decide +kernel
  have resolved : resolve aheadAfterNoon =
      .ok ⟨1709289000, 0, by decide, by decide, by decide⟩ := by
    rw [← toOption_eq_some_iff]
    decide +kernel
  have accepted := read_eq_ok_iff.mpr ⟨_, names, resolved⟩
  have combined : aheadAfterNoon.combine = .ok ⟨1709296200, 0⟩ := by
    rw [← toOption_eq_some_iff]
    decide +kernel
  refine ⟨carries, _, accepted, by decide, ?_⟩
  rcases honoursOffset_iff carries accepted with ⟨fields, offset, again, named, _, honours⟩
  obtain rfl := names.unique again
  cases named
  exact (honours rfl).mpr (.inl ⟨_, combined, by decide,
    ⟨1709289000, 0, by decide, by decide, by decide⟩, by decide⟩)

/-- A date alone is read as its midnight in universal time, whatever its offset. -/
theorem offset_of_date_dropped :
    CarriesOffset "%Y-%m-%d %z" ∧
      ∃ instant, read "%Y-%m-%d %z" "2024-03-01 +0200" = .ok instant ∧
        instant.micros = 1709251200000000 ∧
        ¬ HonoursOffset "%Y-%m-%d %z" "2024-03-01 +0200" instant := by
  have names : Names "%Y-%m-%d %z" "2024-03-01 +0200" aheadOnDay := by
    rw [Names, ← toOption_eq_some_iff]
    decide +kernel
  have resolved : resolve aheadOnDay = .ok ⟨1709251200, 0, by decide, by decide, by decide⟩ := by
    rw [← toOption_eq_some_iff]
    decide +kernel
  refine ⟨⟨⟨false, false⟩, by decide +kernel⟩, _, read_eq_ok_iff.mpr ⟨_, names, resolved⟩,
    by decide, ?_⟩
  rintro ⟨fields, offset, time, again, named, writes, less⟩
  obtain rfl := names.unique again
  cases named
  rcases (resolve_honours_iff rfl rfl resolved).mp ⟨time, writes, less⟩ with
    ⟨time, combined, _⟩ | ⟨zero, _⟩
  · have timed := TimeFields.namesTimeOfDay_of_combine combined
    cases timed
  · cases zero

end Timestamp

end SignalReplay
