import RegionScript.Proofs.Loading

/-!
Which rows ask for a quest to be corrected.

A row that has a quest explored asks for the quest's flag before its distance is looked at. Of the
rows that are refused these are the only ones to leave a trace: a quest is reported just if it lacks
the flag and a script of the table explores it, or a row that would was refused for its distance.
-/

namespace RegionScript

/-- Whether a row was refused for the distance at which it has a quest explored. -/
def Rejection.isAboutDistance : Rejection → Bool
  | distanceTooLarge _ | distanceTooSmall _ => true
  | _ => false

/-- Some script of a table has a quest explored. -/
def ScriptTable.Explores (t : ScriptTable) (quest : UInt32) : Prop :=
  ∃ id script c distance, t.get? id = some script ∧ c ∈ script ∧
    c.payload = .questExplored quest distance

/-- A catalog lacks nothing of a quest that it does not have. -/
theorem Catalog.contains_of_lacksExploration {catalog : Catalog} {quest : UInt32}
    (h : catalog.lacksExploration quest = true) : catalog.quests.contains quest = true := by
  unfold lacksExploration at h
  unfold OrderedMap.contains
  cases hq : catalog.quests.get? quest with
  | none => simp [hq] at h
  | some q => rfl

namespace Loader

variable {l : Loader} {row : Row} {c : Command} {quest distance : UInt32} {reason : Rejection}

/-- A row would have a quest explored, but is refused for the distance. -/
def RefusesForDistance (l : Loader) (row : Row) (quest : UInt32) : Prop :=
  ∃ c distance, Command.ofRow row = .ok c ∧ c.payload = .questExplored quest distance ∧
    (l.check row = .error (.distanceTooLarge distance) ∨
      l.check row = .error (.distanceTooSmall distance))

/-! ### Rows whose buddy and flags are in order -/

theorem wellFlagged_eq_some_iff : l.wellFlagged? row = some c ↔
    Command.ofRow row = .ok c ∧ l.buddyFault c = none ∧ l.flagFault c = none := by
  unfold wellFlagged?
  cases Command.ofRow row with
  | error e => simp
  | ok d =>
    simp only [Option.isNone_iff_eq_none, Option.or_eq_none_iff, Except.ok.injEq]
    constructor
    · intro h
      split at h
      · next hd =>
        obtain rfl := Option.some.inj h
        exact ⟨rfl, hd⟩
      · cases h
    · rintro ⟨rfl, hd⟩
      exact if_pos hd

/-- What remains to be found out about such a row is in its own data. -/
theorem check_of_wellFlagged (h : l.wellFlagged? row = some c) :
    l.check row = (l.payloadFault c).elim (.ok c) .error := by
  obtain ⟨hrow, hbuddy, hflags⟩ := wellFlagged_eq_some_iff.mp h
  rw [check_of_ofRow hrow, fault, hbuddy, hflags, Option.none_or, Option.none_or]

theorem wellFlagged_of_check (h : l.check row = .ok c) : l.wellFlagged? row = some c := by
  obtain ⟨hrow, hfault⟩ := check_eq_ok_iff.mp h
  obtain ⟨hbuddy, hrest⟩ := Option.or_eq_none_iff.mp hfault
  exact wellFlagged_eq_some_iff.mpr ⟨hrow, hbuddy, (Option.or_eq_none_iff.mp hrest).1⟩

/-- Faults of a buddy are not about a distance. -/
theorem buddyFault_isAboutDistance (h : l.buddyFault c = some reason) :
    reason.isAboutDistance = false := by
  unfold buddyFault at h
  split at h
  · cases h
  · rcases Option.or_eq_some_iff.mp h with h | ⟨-, h⟩ <;> rw [eq_of_faultIf h] <;> rfl

/-- Faults of flags are not about a distance. -/
theorem flagFault_isAboutDistance (h : l.flagFault c = some reason) :
    reason.isAboutDistance = false := by
  rcases Option.or_eq_some_iff.mp h with h | ⟨-, h⟩
  · rw [eq_of_faultIf h]
    rfl
  · rcases Option.or_eq_some_iff.mp h with h | ⟨-, h⟩
    · rw [eq_of_faultIf h]
      rfl
    · unfold spawnedBuddyFault at h
      split at h
      · split at h
        · cases h
          rfl
        · rw [eq_of_faultIf h]
          rfl
      · cases h

/-- A row that gets as far as its distance has its buddy and its flags in order. -/
theorem wellFlagged_of_distance (hrow : Command.ofRow row = .ok c)
    (h : l.check row = .error reason) (hreason : reason.isAboutDistance = true) :
    l.wellFlagged? row = some c := by
  rw [check_of_ofRow hrow, fault] at h
  cases hbuddy : l.buddyFault c with
  | some e =>
    rw [hbuddy] at h
    obtain rfl : e = reason := Except.error.inj h
    rw [buddyFault_isAboutDistance hbuddy] at hreason
    cases hreason
  | none =>
    cases hflags : l.flagFault c with
    | some e =>
      rw [hbuddy, hflags] at h
      obtain rfl : e = reason := Except.error.inj h
      rw [flagFault_isAboutDistance hflags] at hreason
      cases hreason
    | none => exact wellFlagged_eq_some_iff.mpr ⟨hrow, hbuddy, hflags⟩

/-- Where the quest is known, only the distance can be at fault. -/
theorem check_of_explored (h : l.wellFlagged? row = some c)
    (hd : c.payload = .questExplored quest distance)
    (hquest : l.catalog.quests.contains quest = true) :
    l.check row = .ok c ∨ l.check row = .error (.distanceTooLarge distance) ∨
      l.check row = .error (.distanceTooSmall distance) := by
  rw [check_of_wellFlagged h]
  unfold payloadFault
  rw [hd]
  simp only [hquest, faultIf, Bool.not_true, Bool.false_eq_true, if_false, Option.none_or]
  split
  · exact .inr (.inl rfl)
  · split
    · exact .inr (.inr rfl)
    · exact .inl rfl

/-! ### Asking for a correction -/

theorem correction_eq_some_iff : l.correction? row = some quest ↔
    l.catalog.lacksExploration quest = true ∧
      ((∃ c distance, l.check row = .ok c ∧ c.payload = .questExplored quest distance) ∨
        l.RefusesForDistance row quest) := by
  constructor
  · intro h
    obtain ⟨c, hc, hcorrection⟩ := Option.bind_eq_some_iff.mp h
    unfold correctionOf? at hcorrection
    split at hcorrection
    · next asked distance hd =>
      split at hcorrection
      · next hlacks =>
        obtain rfl := Option.some.inj hcorrection
        have hquest := Catalog.contains_of_lacksExploration hlacks
        refine ⟨hlacks, (check_of_explored hc hd hquest).imp ?_ ?_⟩
        · exact fun hcheck => ⟨c, distance, hcheck, hd⟩
        · exact fun hcheck => ⟨c, distance, (wellFlagged_eq_some_iff.mp hc).1, hd, hcheck⟩
      · cases hcorrection
    · cases hcorrection
  · rintro ⟨hlacks, hasks⟩
    -- a row refused for its distance has passed all that is checked before the quest is looked at
    have hasked : ∃ c distance, l.wellFlagged? row = some c ∧
        c.payload = .questExplored quest distance := by
      rcases hasks with ⟨c, distance, hcheck, hd⟩ | ⟨c, distance, hrow, hd, hcheck | hcheck⟩
      · exact ⟨c, distance, wellFlagged_of_check hcheck, hd⟩
      · exact ⟨c, distance, wellFlagged_of_distance hrow hcheck rfl, hd⟩
      · exact ⟨c, distance, wellFlagged_of_distance hrow hcheck rfl, hd⟩
    obtain ⟨c, distance, hc, hd⟩ := hasked
    rw [correction?, hc, Option.bind_some, correctionOf?, hd]
    exact if_pos hlacks

/-- A row that is refused for anything but a distance asks for nothing. -/
theorem addCorrection_of_refused (h : l.check row = .error reason)
    (hreason : reason.isAboutDistance = false) (corrections : OrderedSet UInt32) :
    l.addCorrection corrections row = corrections := by
  unfold addCorrection
  split
  · next quest hquest =>
    obtain ⟨-, ⟨c, distance, hcheck, -⟩ | ⟨c, distance, -, -, hcheck | hcheck⟩⟩ :=
      correction_eq_some_iff.mp hquest
    · rw [h] at hcheck
      cases hcheck
    · obtain rfl := Except.error.inj (h.symm.trans hcheck)
      cases hreason
    · obtain rfl := Except.error.inj (h.symm.trans hcheck)
      cases hreason
  · rfl

theorem contains_corrections_iff (l : Loader) (kind : TableKind) (name : String) (rows : List Row)
    (quest : UInt32) : (l.loadRows kind name rows).2.corrections.contains quest = true ↔
      ∃ row ∈ rows, l.correction? row = some quest := by
  rw [loadRows_eq, OrderedSet.contains_ofList_iff, List.mem_filterMap]

/-- A table explores a quest just if an accepted row does. -/
theorem explores_iff (l : Loader) (kind : TableKind) (name : String) (rows : List Row)
    (quest : UInt32) : (l.loadRows kind name rows).1.Explores quest ↔
      ∃ row ∈ rows, ∃ c distance,
        l.check row = .ok c ∧ c.payload = .questExplored quest distance := by
  have hmem := (l.loadRows_groups kind name rows).mem_iff
  constructor
  · rintro ⟨id, script, c, distance, hget, hc, hd⟩
    obtain ⟨row, hrow, hcheck⟩ := mem_acceptedOf.mp ((hmem c).mp ⟨id, script, hget, hc⟩)
    exact ⟨row, hrow, c, distance, hcheck, hd⟩
  · rintro ⟨row, hrow, c, distance, hcheck, hd⟩
    have hc : c ∈ l.acceptedOf rows := mem_acceptedOf.mpr ⟨row, hrow, hcheck⟩
    obtain ⟨id, script, hget, hc⟩ := (hmem c).mpr hc
    exact ⟨id, script, c, distance, hget, hc, hd⟩

end Loader

/-- A row that is refused for anything but its distance leaves the corrections as they are. The
corrections of a report are the quests without the flag that a script of the loaded table explores,
and those that rows refused for their distance would have had explored. -/
theorem refused_rows_leave_no_trace (l : Loader) :
    (∀ row reason corrections, l.check row = .error reason → reason.isAboutDistance = false →
      l.addCorrection corrections row = corrections) ∧
    ∀ (source : RowSource) kind name rows, source.rows name = .ok rows →
      ∃ table report, (l.loadTable source kind name).result = .ok (table, report) ∧
        ∀ quest, report.corrections.contains quest = true ↔
          l.catalog.lacksExploration quest = true ∧
            (table.Explores quest ∨ ∃ row ∈ rows, l.RefusesForDistance row quest) := by
  refine ⟨fun row reason corrections h hreason => Loader.addCorrection_of_refused h hreason _,
    fun source kind name rows h => ?_⟩
  have hresult : (l.loadTable source kind name).result = .ok (l.loadRows kind name rows) :=
    Loader.loadTable_eq_ok_iff.mpr ⟨rows, h, rfl⟩
  refine ⟨(l.loadRows kind name rows).1, (l.loadRows kind name rows).2, hresult, fun quest => ?_⟩
  rw [l.contains_corrections_iff, l.explores_iff]
  constructor
  · rintro ⟨row, hrow, hasks⟩
    obtain ⟨hlacks, hasks⟩ := Loader.correction_eq_some_iff.mp hasks
    exact ⟨hlacks, hasks.imp (fun h => ⟨row, hrow, h⟩) fun h => ⟨row, hrow, h⟩⟩
  · rintro ⟨hlacks, ⟨row, hrow, hasks⟩ | ⟨row, hrow, hasks⟩⟩
    · exact ⟨row, hrow, Loader.correction_eq_some_iff.mpr ⟨hlacks, .inl hasks⟩⟩
    · exact ⟨row, hrow, Loader.correction_eq_some_iff.mpr ⟨hlacks, .inr hasks⟩⟩

/-- A row that has a quest explored. -/
def exploring (quest distance : UInt32) : Row := (Row.new 1 0 7).withData quest distance

/-- A loader for two quests that lack the flag. -/
def scouting : Loader where
  catalog :=
    { quests := .ofList [(7, ⟨7, "The lost pass", 0⟩), (8, ⟨8, "The far tower", 0⟩)] }

/-- The seventh quest is explored by an accepted row, and the eighth by one that is too far. A row
about a ninth, which is unknown, leaves no trace. -/
theorem refused_rows_leave_no_trace_scouting :
    let rows := [exploring 7 10, exploring 8 91, exploring 9 10]
    let source : RowSource := ⟨fun _ => .ok rows, .ok [], .ok [], .ok []⟩
    scouting.check (exploring 9 10) = .error (.unknownQuest 9) ∧
      scouting.addCorrection (.ofList [7]) (exploring 9 10) = .ofList [7] ∧
      source.rows "scouting" = .ok rows ∧
      ∃ table report,
        (scouting.loadTable source .event "scouting").result = .ok (table, report) ∧
          table.Explores 7 ∧ scouting.RefusesForDistance (exploring 8 91) 8 ∧
          report.corrections.contains 7 = true ∧ report.corrections.contains 8 = true ∧
          report.corrections.contains 9 = false := by
  intro rows source
  have hunknown : scouting.check (exploring 9 10) = .error (.unknownQuest 9) := rfl
  have hread : source.rows "scouting" = .ok rows := rfl
  obtain ⟨hrefused, hloaded⟩ := refused_rows_leave_no_trace scouting
  obtain ⟨table, report, hresult, hcorrections⟩ := hloaded source .event "scouting" rows hread
  obtain ⟨rfl, -⟩ : (scouting.loadRows .event "scouting" rows).1 = table ∧ _ :=
    Prod.mk.inj (Except.ok.inj ((rfl : _ = (scouting.loadTable source _ _).result).trans hresult))
  have hexplores : (scouting.loadRows .event "scouting" rows).1.Explores 7 :=
    (scouting.explores_iff .event "scouting" rows 7).mpr
      ⟨exploring 7 10, by simp [rows], .plain 1 0 (.questExplored 7 10), 10, rfl, rfl⟩
  have hfar : scouting.RefusesForDistance (exploring 8 91) 8 :=
    ⟨.plain 1 0 (.questExplored 8 91), 91, rfl, rfl, .inl rfl⟩
  refine ⟨hunknown, hrefused _ _ _ hunknown rfl, hread, _, report, hresult, hexplores, hfar, ?_, ?_,
    ?_⟩
  · exact (hcorrections 7).mpr ⟨by decide +kernel, .inl hexplores⟩
  · exact (hcorrections 8).mpr ⟨by decide +kernel, .inr ⟨_, by simp [rows], hfar⟩⟩
  · rw [← Bool.not_eq_true, hcorrections 9]
    exact fun h => absurd h.1 (by decide +kernel)

/-- A row that is refused for its distance asks for a correction all the same: its quest is reported
though no script is loaded. -/
theorem refused_row_leaves_trace :
    scouting.check (exploring 8 91) = .error (.distanceTooLarge 91) ∧
      scouting.addCorrection ∅ (exploring 8 91) ≠ ∅ ∧
      (scouting.loadRows .event "scouting" [exploring 8 91]).1.isEmpty = true ∧
      (scouting.loadRows .event "scouting" [exploring 8 91]).2.corrections.toList = [8] :=
  ⟨rfl, by decide +kernel, rfl, rfl⟩

end RegionScript
