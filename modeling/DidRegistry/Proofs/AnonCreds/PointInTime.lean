import DidRegistry.Proofs.AnonCreds.ListQuery
import DidRegistry.Proofs.Calendar.Timestamp

/-!
Lists at a point in time. A lookup for a point in time either refuses it, because no timestamp is
written for it, or asks for the list with a timestamp that denotes just this second.

Main statements: the timestamp is a date and time of RFC 3339 for just the years from 0 to 9999
(`list_asked_for_at`), and later points in time have timestamps that are greater
(`lookups_keep_order`). A lookup in a later year is sent all the same
(`far_time_is_no_rfc3339`).
-/

namespace DidRegistry.AnonCreds

variable {settings : Settings} {services : Services} {registryId : String} {served : Delivery}
  {place : Slot} {timestamp : Int64} {exchanges : List Exchange}
  {result : Except Error (Resolved RevocationStatusList)}

/-- A lookup for a point in time without a timestamp ends once the list's place is known. -/
theorem result_of_unwritten
    (trace : (getRevocationList services registryId (some timestamp)).Traces exchanges result)
    (serves : Served services registryId served exchanges)
    (found : listSlot? services registryId served = some place)
    (unwritten : Calendar.timestamp? timestamp.toInt = none) :
    result = .error (.invalidInput s!"timestamp {timestamp.toInt} is out of range") := by
  have refused : ∀ issuer name, statusListUrl issuer name timestamp =
      .error (.invalidInput s!"timestamp {timestamp.toInt} is out of range") := by
    intro issuer name
    rw [statusListUrl, unwritten]
  unfold getRevocationList at trace
  rw [Program.bind_eq, listInForce_eq_registryName, Program.bind_assoc] at trace
  rcases registryName_bind_traces trace serves with
    ⟨none, -⟩ | ⟨issuer, resource, name, request, after, same, split, asked, rfl, followed⟩
  · rw [none] at found
    cases found
  · rw [split, Program.ofExcept_ok_bind] at followed
    change (((Program.ofExcept (statusListUrl issuer name timestamp)).bind _).bind _).Traces
      _ _ at followed
    rw [refused] at followed
    exact followed.2

/-- A lookup for a point in time is refused without asking for the list, or asks for it with the
timestamp of this point. -/
theorem asksAt_of_traces (usable : Services.ofSettings settings = .ok services)
    (trace : (getRevocationList services registryId (some timestamp)).Traces exchanges result)
    (serves : Served services registryId served exchanges)
    (found : listSlot? services registryId served = some place) :
    (Calendar.timestamp? timestamp.toInt = none ∧
      (∃ definition, inquiries exchanges = [definition]) ∧
      result = .error (.invalidInput s!"timestamp {timestamp.toInt} is out of range")) ∨
    ∃ time, Calendar.timestamp? timestamp.toInt = some time ∧
      AsksAt services place time exchanges := by
  obtain ⟨epoch, given, ends⟩ := (getRevocationList_traces trace serves found).asksAt usable
    (resourceType_of_listSlot? found)
  obtain rfl := given timestamp rfl
  rcases ends with ⟨unwritten, inquired⟩ | asks
  · exact Or.inl ⟨unwritten, inquired, result_of_unwritten trace serves found unwritten⟩
  · exact Or.inr asks

/-- A lookup for a point in time is refused, without asking for the list, if the year is none of
those that have timestamps. Otherwise the list is asked for with a timestamp that denotes this
second: a date and time of RFC 3339 in the years from 0 to 9999, and one with a signed year, which
RFC 3339 does not know, in all others. -/
theorem list_asked_for_at (usable : Services.ofSettings settings = .ok services)
    (trace : (getRevocationList services registryId (some timestamp)).Traces exchanges result)
    (serves : Served services registryId served exchanges)
    (found : listSlot? services registryId served = some place) :
    ((Calendar.yearOf timestamp.toInt < -262143 ∨ 262142 < Calendar.yearOf timestamp.toInt) ∧
      (∃ definition, inquiries exchanges = [definition]) ∧
      result = .error (.invalidInput s!"timestamp {timestamp.toInt} is out of range")) ∨
    ∃ time, Calendar.timestamp? timestamp.toInt = some time ∧
      AsksAt services place time exchanges ∧
      Calendar.expanded? time = some timestamp.toInt ∧
      (Calendar.WithinFourDigits timestamp.toInt →
        Calendar.rfc3339? time = some timestamp.toInt) ∧
      (¬ Calendar.WithinFourDigits timestamp.toInt → Calendar.rfc3339? time = none) := by
  rcases asksAt_of_traces usable trace serves found with
    ⟨unwritten, inquired, refused⟩ | ⟨time, written, asks⟩
  · exact Or.inl ⟨(Calendar.timestamp?_eq_none_iff _).mp unwritten, inquired, refused⟩
  · exact Or.inr ⟨time, written, asks, Calendar.expanded?_of_timestamp? written,
      Calendar.rfc3339?_of_timestamp? written, Calendar.rfc3339?_eq_none_of_timestamp? written⟩

-- Traces of a program that is known are not to be computed.
attribute [local irreducible] Program.Traces

/-- The last second of a leap day before the epoch is asked for as it is written. -/
theorem list_asked_for_at_leap_day :
    ∃ exchanges result,
      (getRevocationList .standard Recording.ofTwo.registry.id (some (-57974401))).Traces exchanges
        result ∧
      ∃ time, AsksAt .standard
          ⟨Recording.ofTwo.registry.issuer, Recording.ofTwo.registry.name,
            ResourceType.statusList.name⟩ time exchanges ∧
        Calendar.rfc3339? time = some (-57974401) := by
  obtain ⟨exchanges, result, trace, serves⟩ :=
    exists_lookup_traces Recording.ofTwo Recording.unrevoked (some (-57974401))
  have within : Calendar.WithinFourDigits (-57974401 : Int64).toInt :=
    (Calendar.withinFourDigits_iff _).mpr (by decide)
  rcases list_asked_for_at Services.ofSettings_standard trace serves
    Recording.ofTwo.listSlot?_definition with ⟨beyond, -⟩ | ⟨time, -, asks, -, read, -⟩
  · exact absurd beyond (by decide +kernel)
  · exact ⟨exchanges, result, trace, time, asks, read within⟩

/-- The first second of the year 10000 is asked for with a timestamp that RFC 3339 does not know. -/
theorem far_time_is_no_rfc3339 :
    ¬ ∀ (settings : Settings) (services : Services) (registryId : String) (served : Delivery)
      (place : Slot) (timestamp : Int64) (exchanges : List Exchange)
      (result : Except Error (Resolved RevocationStatusList)),
      Services.ofSettings settings = .ok services →
      (getRevocationList services registryId (some timestamp)).Traces exchanges result →
      Served services registryId served exchanges →
      listSlot? services registryId served = some place →
      ((∃ definition, inquiries exchanges = [definition]) ∧
        ∃ reason, result = .error (.invalidInput reason)) ∨
      ∃ time, AsksAt services place time exchanges ∧
        Calendar.rfc3339? time = some timestamp.toInt := by
  intro always
  obtain ⟨exchanges, result, trace, serves⟩ :=
    exists_lookup_traces Recording.ofTwo Recording.unrevoked (some 253402300800)
  have found := Recording.ofTwo.listSlot?_definition
  have unasked : '?' ∉ Recording.ofTwo.registry.issuer.toList := by decide +kernel
  have unmarked : '#' ∉ Recording.ofTwo.registry.issuer.toList := by decide +kernel
  have beyond : ¬ Calendar.WithinFourDigits (253402300800 : Int64).toInt :=
    mt (Calendar.withinFourDigits_iff _).mp (by decide)
  rcases asksAt_of_traces Services.ofSettings_standard trace serves found with
    ⟨unwritten, -⟩ | ⟨time, written, asks⟩
  · exact absurd unwritten (by decide +kernel)
  obtain ⟨definition, list, inquired, query⟩ :=
    asks.query Services.ofSettings_standard rfl rfl rfl unasked unmarked
  rcases always _ _ _ _ _ _ _ _ Services.ofSettings_standard trace serves found with
    ⟨⟨single, alone⟩, -⟩ | ⟨other, again, read⟩
  · rw [inquired] at alone
    cases alone
  · -- The query tells the time, whatever text is said to be in it.
    obtain ⟨_, _, also, same⟩ :=
      again.query Services.ofSettings_standard rfl rfl rfl unasked unmarked
    rw [inquired] at also
    cases also
    rw [query, Option.some.injEq, statusListQuery_inj] at same
    rw [← same.2, Calendar.rfc3339?_eq_none_of_timestamp? written beyond] at read
    cases read

/-- Lookups that go on to ask for their lists ask with timestamps that tell their points in time
apart, and that have the order of these points in the years from 0 to 9999. The order is that of the
octets of the texts. Beyond these years a sign comes first, which is not in order with the digits,
so nothing is said of the order there; two points are told apart in all years. -/
theorem lookups_keep_order {registryOther : String} {servedOther : Delivery} {placeOther : Slot}
    {timestampOther : Int64} {exchangesOther : List Exchange}
    {resultOther : Except Error (Resolved RevocationStatusList)}
    (usable : Services.ofSettings settings = .ok services)
    (trace : (getRevocationList services registryId (some timestamp)).Traces exchanges result)
    (traceOther : (getRevocationList services registryOther (some timestampOther)).Traces
      exchangesOther resultOther)
    (serves : Served services registryId served exchanges)
    (servesOther : Served services registryOther servedOther exchangesOther)
    (found : listSlot? services registryId served = some place)
    (foundOther : listSlot? services registryOther servedOther = some placeOther)
    (accepted : 1 < (inquiries exchanges).length)
    (acceptedOther : 1 < (inquiries exchangesOther).length) :
    ∃ time other, Calendar.timestamp? timestamp.toInt = some time ∧
      Calendar.timestamp? timestampOther.toInt = some other ∧
      AsksAt services place time exchanges ∧
      AsksAt services placeOther other exchangesOther ∧
      (timestamp ≠ timestampOther → time ≠ other) ∧
      (timestamp < timestampOther → Calendar.WithinFourDigits timestamp.toInt →
        Calendar.WithinFourDigits timestampOther.toInt →
        Bytes.ofText time < Bytes.ofText other) := by
  rcases asksAt_of_traces usable trace serves found with
    ⟨-, ⟨definition, inquired⟩, -⟩ | ⟨time, written, asks⟩
  · rw [inquired] at accepted
    exact absurd accepted (Nat.lt_irrefl 1)
  rcases asksAt_of_traces usable traceOther servesOther foundOther with
    ⟨-, ⟨definition, inquired⟩, -⟩ | ⟨other, also, asksOther⟩
  · rw [inquired] at acceptedOther
    exact absurd acceptedOther (Nat.lt_irrefl 1)
  refine ⟨time, other, written, also, asks, asksOther, ?_, ?_⟩
  · rintro distinct rfl
    exact distinct (Int64.toInt_inj.mp (Calendar.timestamp?_injective written also))
  · intro before
    exact Calendar.ofText_timestamp_lt (Int64.lt_iff_toInt_lt.mp before) written also

/-- Lookups of a recorded registry's list go on to ask for it, if the time can be written. -/
theorem accepts_of_written {recording : Recording services}
    (usable : Services.ofSettings settings = .ok services)
    (trace : (getRevocationList services recording.registry.id (some timestamp)).Traces exchanges
      result)
    (serves : Served services recording.registry.id (.replied ⟨200, recording.reply⟩) exchanges)
    (written : Calendar.timestamp? timestamp.toInt ≠ none) : 1 < (inquiries exchanges).length := by
  rcases asksAt_of_traces usable trace serves recording.listSlot?_definition with
    ⟨unwritten, -⟩ | ⟨time, -, definition, url, -, inquired⟩
  · exact absurd unwritten written
  · rw [inquired]
    exact Nat.lt_succ_self 1

/-- The last second of a year is asked for with a lesser timestamp than the first of the next, where
the epoch is between them. -/
theorem lookups_keep_order_newYear :
    ∃ exchanges result exchangesOther resultOther time other,
      (getRevocationList .standard Recording.ofTwo.registry.id (some (-1))).Traces exchanges
        result ∧
      (getRevocationList .standard Recording.ofTwo.registry.id (some 0)).Traces exchangesOther
        resultOther ∧
      AsksAt .standard
        ⟨Recording.ofTwo.registry.issuer, Recording.ofTwo.registry.name,
          ResourceType.statusList.name⟩ time exchanges ∧
      AsksAt .standard
        ⟨Recording.ofTwo.registry.issuer, Recording.ofTwo.registry.name,
          ResourceType.statusList.name⟩ other exchangesOther ∧
      time ≠ other ∧ Bytes.ofText time < Bytes.ofText other := by
  obtain ⟨exchanges, result, trace, serves⟩ :=
    exists_lookup_traces Recording.ofTwo Recording.unrevoked (some (-1))
  obtain ⟨exchangesOther, resultOther, traceOther, servesOther⟩ :=
    exists_lookup_traces Recording.ofTwo Recording.unrevoked (some 0)
  obtain ⟨time, other, -, -, asks, asksOther, distinct, order⟩ := lookups_keep_order
    Services.ofSettings_standard trace traceOther serves servesOther
    Recording.ofTwo.listSlot?_definition Recording.ofTwo.listSlot?_definition
    (accepts_of_written Services.ofSettings_standard trace serves (by decide +kernel))
    (accepts_of_written Services.ofSettings_standard traceOther servesOther (by decide +kernel))
  refine ⟨exchanges, result, exchangesOther, resultOther, time, other, trace, traceOther, asks,
    asksOther, distinct (by decide), order (by decide) ?_ ?_⟩
  · exact (Calendar.withinFourDigits_iff _).mpr (by decide)
  · exact (Calendar.withinFourDigits_iff _).mpr (by decide)

end DidRegistry.AnonCreds
