import Santamon.Signals.Context
import Santamon.Events.Format
import Santamon.Baseline.Keys
import Santamon.Rules.Evaluate

namespace Santamon.Signals

open Santamon.Events Santamon.Rules Santamon.Correlation Santamon.Baseline

theorem signalData_data (r : String) (t : Time) (host i : String) :
    (signalData r t host i).data =
      r.data ++ '|' :: (t.formatRFC3339.data ++ '|' :: (host.data ++ '|' :: i.data)) := by
  have hbar : "|".data = ['|'] := rfl
  simp only [signalData, String.data_append, List.append_assoc, hbar, List.singleton_append,
    List.cons_append, List.nil_append]

theorem signalData_tail_inj {t₁ t₂ : Time} {host i₁ i₂ : String}
    (h : t₁.formatRFC3339.data ++ '|' :: (host.data ++ '|' :: i₁.data) =
      t₂.formatRFC3339.data ++ '|' :: (host.data ++ '|' :: i₂.data)) :
    t₁ / 1000000000 = t₂ / 1000000000 ∧ i₁ = i₂ := by
  obtain ⟨ht, h⟩ := append_sep_cancel (formatRFC3339_no_bar t₁) (formatRFC3339_no_bar t₂) h
  exact ⟨(formatRFC3339_eq_iff t₁ t₂).mp (String.ext ht),
    String.ext (List.cons_injective (List.append_cancel_left h))⟩

theorem signalData_congr_second (r host i : String) {t₁ t₂ : Time}
    (h : t₁ / 1000000000 = t₂ / 1000000000) : signalData r t₁ host i = signalData r t₂ host i := by
  rw [signalData, signalData, (formatRFC3339_eq_iff t₁ t₂).mpr h]

theorem generateSignalID_congr_second (r host i : String) {t₁ t₂ : Time}
    (h : t₁ / 1000000000 = t₂ / 1000000000) :
    generateSignalID r t₁ host i = generateSignalID r t₂ host i := by
  rw [generateSignalID, generateSignalID, signalData_congr_second r host i h]

theorem signalData_eq_iff {r₁ r₂ : String} (h₁ : '|' ∉ r₁.data) (h₂ : '|' ∉ r₂.data)
    (t₁ t₂ : Time) (host i₁ i₂ : String) :
    signalData r₁ t₁ host i₁ = signalData r₂ t₂ host i₂ ↔
      r₁ = r₂ ∧ t₁ / 1000000000 = t₂ / 1000000000 ∧ i₁ = i₂ := by
  constructor
  · intro h
    have h' := congrArg String.data h
    rw [signalData_data, signalData_data] at h'
    obtain ⟨hr, h'⟩ := append_sep_cancel h₁ h₂ h'
    exact ⟨String.ext hr, signalData_tail_inj h'⟩
  · rintro ⟨rfl, ht, rfl⟩
    exact signalData_congr_second r₁ host i₁ ht

theorem signalData_eq_iff_rule_ids :
    '|' ∉ "R1".data ∧ '|' ∉ "R2".data ∧
      (signalData "R1" 0 "host" "" = signalData "R2" 0 "host" "" ↔
        "R1" = "R2" ∧ (0 : Time) / 1000000000 = 0 / 1000000000 ∧ "" = "") :=
  ⟨by decide, by decide, signalData_eq_iff (by decide) (by decide) 0 0 "host" "" ""⟩

/-- `teamMessage` half a second later. -/
def halfSecondMessage : SantaMessage := { teamMessage with eventTime := some ⟨0, 500000000⟩ }

theorem same_second_signal_ids_collide :
    (Match.ofRule alwaysRule teamMessage).timestamp ≠
        (Match.ofRule alwaysRule halfSecondMessage).timestamp ∧
      ((⟨"host", none⟩ : Generator).fromRuleMatch (Match.ofRule alwaysRule teamMessage) 0).id =
        ((⟨"host", none⟩ : Generator).fromRuleMatch (Match.ofRule alwaysRule halfSecondMessage) 0).id :=
  ⟨by decide, @generateSignalID_congr_second "R1" "host" "" 0 500000000 rfl⟩

theorem window_signal_id_reads_clock :
    teamMap.field? "event_time" = some (.time 0) ∧
      ((⟨"host", none⟩ : Generator).fromWindowMatch teamWindow "" 0).id ≠
        ((⟨"host", none⟩ : Generator).fromWindowMatch teamWindow "" 1000000000).id :=
  ⟨rfl, by set_option maxRecDepth 8000 in decide⟩

end Santamon.Signals
