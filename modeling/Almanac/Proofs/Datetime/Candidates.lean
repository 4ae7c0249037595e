import Almanac.Proofs.Datetime.SameLayout
import Almanac.Proofs.Repetitions

/-!
# Candidates and the usual date

Whatever formats a template declares, its candidates are these formats in the order of their
declaration, each at its first place only, and the usual format of a date is one of them. The
last candidate that reads a start date off a value decides, so that a day in the usual format is
never lost, however odd the other candidates are (`isSome_normalize_of_dateText`). The year has
four digits there (`normalize_short_year_eq_none`).
-/

namespace Almanac

open Text

namespace Datetime

/-- The formats of a template and the usual ones as candidates, in the order of their
declaration. -/
def Formats.declared (formats : Formats) : List Candidate :=
  formats.combined.map fun format => .ofFormat (compactChars (plainDashes format))

theorem Formats.candidates_eq (formats : Formats) :
    formats.candidates = formats.declared.eraseDups := rfl

/-- The usual format of a date is declared behind all others. -/
theorem Formats.usualDate_mem_candidates (formats : Formats) :
    .single usualDate ∈ formats.candidates := by
  rw [candidates_eq, List.mem_eraseDups, declared, ← ofFormat_usual.1]
  exact List.mem_map_of_mem (List.mem_append_right _ (List.mem_singleton.mpr rfl))

/-- A day with white space around its dots is prepared by dropping it. -/
theorem prepare_dateText {n : Normalizer} {date : Date} {raw : String}
    (h : IsDateText date raw.toList) (hwords : n.locale.replaceWords raw = raw) :
    IsPlainDate date (n.prepare raw) := by
  obtain ⟨plain, hplain, hlayout⟩ := laysOut_dateText h
  have htext := isMomentText_dateText h
  have hsign : '%' ∉ raw.toList := not_mem_of_isMomentChar htext.chars (by decide)
  have hwhole : layout raw.toList = plain := by
    have hwhole := hlayout true false []
    rwa [List.append_nil, Bool.false_and, layoutFrom, List.append_nil] at hwhole
  have hmark : occurs dateTimeSeparator raw.toList = false :=
    occurs_eq_false List.mem_cons_self hsign
  rw [prepare_of_not_occurs (by rwa [hwords]), hwords, compactChars_plainDashes hsign,
    htext.plainDashes_eq_self, hwhole]
  exact hplain

/-- A day in the usual format is normalized under every template. -/
theorem isSome_normalize_of_dateText {n : Normalizer} (husual : .single usualDate ∈ n.candidates)
    {date : Date} (hyear : 1 ≤ date.year ∧ date.year ≤ 9999) {raw : String}
    (h : IsDateText date raw.toList) (hwords : n.locale.replaceWords raw = raw) :
    (n.normalize raw).isSome := by
  have hread : Candidate.read? n.locale (.single usualDate) (n.prepare raw) =
      some { startDate := some date } := by
    rw [Candidate.read?, readStated?_usualDate (prepare_dateText h hwords) hyear]
    rfl
  exact isSome_normalize husual hread rfl

end Datetime

open Datetime

/-- **The last candidate that reads a start date decides**, and a value is normalized to nothing
just when there is none. The candidates are the declared formats, each at its first place, with the
usual format of a date among them: a day written in it is not lost if the words of the locale leave
it. -/
theorem candidates_decide (template : Template) (locale : Locale) :
    let n := template.normalizer locale
    let declared := template.datetimeFormats.declared
    (n.candidates.Nodup ∧ (∀ c, c ∈ n.candidates ↔ c ∈ declared) ∧
      (n.candidates.Pairwise fun a b => declared.idxOf a < declared.idxOf b) ∧
      .single "%d.%m.%Y" ∈ n.candidates) ∧
    (∀ raw occurrence, n.normalize raw = some occurrence ↔ ∃ front candidate behind,
      n.candidates = front ++ candidate :: behind ∧
        candidate.read? locale (n.prepare raw) = some occurrence ∧
        occurrence.startDate.isSome ∧
        ∀ c ∈ behind, ∀ found, c.read? locale (n.prepare raw) = some found →
          found.startDate = none) ∧
    (∀ raw, n.normalize raw = none ↔ ∀ c ∈ n.candidates, ∀ found,
      c.read? locale (n.prepare raw) = some found → found.startDate = none) ∧
    ∀ (date : Date) (raw : String), 1 ≤ date.year ∧ date.year ≤ 9999 →
      IsDateText date raw.toList → locale.replaceWords raw = raw →
        (n.normalize raw).isSome := by
  intro n declared
  have husual : .single usualDate ∈ n.candidates :=
    template.datetimeFormats.usualDate_mem_candidates
  refine ⟨⟨nodup_eraseDups _, fun c => List.mem_eraseDups, pairwise_idxOf_eraseDups _, husual⟩,
    fun raw occurrence => normalize_eq_some_iff, fun raw => normalize_eq_none_iff, ?_⟩
  intro date raw hyear hdate hwords
  exact isSome_normalize_of_dateText husual hyear hdate hwords

/-- A template with formats that are none, a range without a delimiter and the usual format of a
date in other white space. -/
def oddTemplate : Template where
  name := "odd"
  event := some { fields := .ofList [
    ("date", { selection := {}, formats := ["%", "%d. %m. %Y", "%range\x7b\x7d", "%d.%m.%Y"] }),
    ("time", { selection := {}, formats := ["", "%range\x7b.\x7d"] })] }

theorem candidates_decide_odd :
    let date : Date := ⟨996, 2, 29, by decide, by decide⟩
    let n := oddTemplate.normalizer .czech
    (1 ≤ date.year ∧ date.year ≤ 9999) ∧ IsDateText date "29. 02 .0996".toList ∧
      Locale.czech.replaceWords "29. 02 .0996" = "29. 02 .0996" ∧
      n.candidates.Nodup ∧ n.candidates.length = 8 ∧ n.candidates[3]? = some (.single "%d.%m.%Y") ∧
      (n.normalize "29. 02 .0996").isSome ∧
      ∃ occurrence, n.normalize "29. 02 .0996" = some occurrence ∧
        ∃ front candidate behind, n.candidates = front ++ candidate :: behind ∧
          candidate.read? .czech (n.prepare "29. 02 .0996") = some occurrence := by
  intro date n
  have hdate : IsDateText date "29. 02 .0996".toList :=
    ⟨['2', '9'], [], [' '], ['0', '2'], [' '], [], by decide +kernel, by decide +kernel,
      List.all_eq_true.mp rfl, by decide +kernel⟩
  have hwords : Locale.czech.replaceWords "29. 02 .0996" = "29. 02 .0996" := by decide +kernel
  obtain ⟨hcandidates, hsome, -, husual⟩ := candidates_decide oddTemplate .czech
  have hfound := husual date "29. 02 .0996" (by decide) hdate hwords
  obtain ⟨occurrence, hoccurrence⟩ := Option.isSome_iff_exists.mp hfound
  obtain ⟨front, candidate, behind, hsplit, hread, -⟩ := (hsome _ occurrence).mp hoccurrence
  exact ⟨by decide, hdate, hwords, hcandidates.1, by decide +kernel, by decide +kernel, hfound,
    occurrence, hoccurrence, front, candidate, behind, hsplit, hread⟩

/-- A year is read in four digits: one below a thousand without its zeros is not read. -/
theorem normalize_short_year_eq_none :
    let date : Date := ⟨999, 2, 1, by decide, by decide⟩
    let n := (datedTemplate "%d.%m.%Y" []).normalizer .czech
    (1 ≤ date.year ∧ date.year ≤ 9999) ∧ Locale.czech.replaceWords "1.2.999" = "1.2.999" ∧
      "1.2.999".toList = Number.digits date.day ++ '.' :: (Number.digits date.month ++ '.' ::
        Number.digits date.year) ∧
      n.normalize "1.2.999" = none := by
  decide +kernel

end Almanac
