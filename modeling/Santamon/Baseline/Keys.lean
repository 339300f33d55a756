import Santamon.Baseline.Processor

namespace Santamon.Baseline

open Santamon.Events Santamon.Correlation

theorem intercalate_go_data (acc s : String) (l : List String) :
    (String.intercalate.go acc s l).data = acc.data ++ l.flatMap fun a => s.data ++ a.data := by
  induction l generalizing acc with
  | nil => simp [String.intercalate.go]
  | cons a l ih => simp [String.intercalate.go, ih]

/-- The characters of the `field=value` segment that `joinFields` writes for one path. -/
def segment (event : EventMap) (field : String) : List Char :=
  (trimPrefix field "event.").data ++ '=' :: (extractField event (trimPrefix field "event.")).data

theorem joinFields_data (event : EventMap) (f : String) (fs : List String) :
    (joinFields event (f :: fs)).data =
      segment event f ++ fs.flatMap fun g => '|' :: segment event g := by
  simp [joinFields, String.intercalate, intercalate_go_data, segment, List.flatMap_map]

theorem append_sep_cancel {u v x y : List Char} (hu : '|' ∉ u) (hv : '|' ∉ v)
    (h : u ++ '|' :: x = v ++ '|' :: y) : u = v ∧ x = y := by
  induction u generalizing v with
  | nil =>
    cases v with
    | nil => simpa using h
    | cons d v =>
      simp only [List.nil_append, List.cons_append, List.cons.injEq] at h
      exact absurd (h.1 ▸ List.mem_cons_self _ _) hv
  | cons c u ih =>
    cases v with
    | nil =>
      simp only [List.nil_append, List.cons_append, List.cons.injEq] at h
      exact absurd (h.1 ▸ List.mem_cons_self _ _) hu
    | cons d v =>
      simp only [List.cons_append, List.cons.injEq] at h
      obtain ⟨rfl, h⟩ := h
      obtain ⟨rfl, rfl⟩ := ih (List.not_mem_of_not_mem_cons hu) (List.not_mem_of_not_mem_cons hv) h
      exact ⟨rfl, rfl⟩

theorem extractField_eq_of_segments {a b : EventMap} (f : String) (fs : List String)
    (ha : ∀ g ∈ f :: fs, '|' ∉ (extractField a (trimPrefix g "event.")).data)
    (hb : ∀ g ∈ f :: fs, '|' ∉ (extractField b (trimPrefix g "event.")).data)
    (h : segment a f ++ fs.flatMap (fun g => '|' :: segment a g) =
      segment b f ++ fs.flatMap fun g => '|' :: segment b g) :
    ∀ g ∈ f :: fs, extractField a (trimPrefix g "event.") = extractField b (trimPrefix g "event.") := by
  induction fs generalizing f with
  | nil =>
    simp only [List.flatMap_nil, List.append_nil, segment, List.append_cancel_left_eq,
      List.cons.injEq, true_and] at h
    simpa using String.ext h
  | cons g gs ih =>
    simp only [List.flatMap_cons, segment, List.append_assoc, List.cons_append,
      List.append_cancel_left_eq, List.cons.injEq, true_and] at h
    obtain ⟨hf, hr⟩ := append_sep_cancel (ha f (List.mem_cons_self _ _))
      (hb f (List.mem_cons_self _ _)) h
    have hr' : segment a g ++ gs.flatMap (fun g => '|' :: segment a g) =
        segment b g ++ gs.flatMap fun g => '|' :: segment b g := by
      simpa only [segment, List.append_assoc, List.cons_append] using hr
    have hgs := ih g (fun x hx => ha x (List.mem_cons_of_mem _ hx))
      (fun x hx => hb x (List.mem_cons_of_mem _ hx)) hr'
    intro x hx
    rcases List.mem_cons.mp hx with rfl | hx
    · exact String.ext hf
    · exact hgs x hx

theorem key_fields_injective {fs : List String} {a b : EventMap}
    (ha : ∀ f ∈ fs, '|' ∉ (extractField a (trimPrefix f "event.")).data)
    (hb : ∀ f ∈ fs, '|' ∉ (extractField b (trimPrefix f "event.")).data)
    (h : extractPattern a fs = extractPattern b fs ∨ extractGroupKey a fs = extractGroupKey b fs) :
    ∀ f ∈ fs, extractField a (trimPrefix f "event.") = extractField b (trimPrefix f "event.") := by
  cases fs with
  | nil => simp
  | cons f fs =>
    have hj : joinFields a (f :: fs) = joinFields b (f :: fs) := by
      simpa [extractPattern, extractGroupKey] using h
    have hd := congrArg String.data hj
    rw [joinFields_data, joinFields_data] at hd
    exact extractField_eq_of_segments f fs ha hb hd

/-- Two maps that agree on the tracked fields `a` and `b` and differ elsewhere. -/
def trackedXY : EventMap := [("a", .str "x"), ("b", .str "y"), ("c", .num 1)]

def trackedYX : EventMap := [("b", .str "y"), ("a", .str "x")]

theorem key_fields_injective_trackedXY :
    (∀ f ∈ ["a", "event.b"], '|' ∉ (extractField trackedXY (trimPrefix f "event.")).data) ∧
      (∀ f ∈ ["a", "event.b"], '|' ∉ (extractField trackedYX (trimPrefix f "event.")).data) ∧
      (extractPattern trackedXY ["a", "event.b"] = extractPattern trackedYX ["a", "event.b"] ∨
        extractGroupKey trackedXY ["a", "event.b"] = extractGroupKey trackedYX ["a", "event.b"]) ∧
      ∀ f ∈ ["a", "event.b"], extractField trackedXY (trimPrefix f "event.") =
        extractField trackedYX (trimPrefix f "event.") :=
  have ha : ∀ f ∈ ["a", "event.b"], '|' ∉ (extractField trackedXY (trimPrefix f "event.")).data := by
    decide
  have hb : ∀ f ∈ ["a", "event.b"], '|' ∉ (extractField trackedYX (trimPrefix f "event.")).data := by
    decide
  have h : extractPattern trackedXY ["a", "event.b"] = extractPattern trackedYX ["a", "event.b"] ∨
      extractGroupKey trackedXY ["a", "event.b"] = extractGroupKey trackedYX ["a", "event.b"] := by
    decide
  ⟨ha, hb, h, key_fields_injective ha hb h⟩

/-- Two maps whose tracked values trade a `|b=` between the fields `a` and `b`. -/
def splitLeft : EventMap := [("a", .str "x|b=y"), ("b", .str "z")]

def splitRight : EventMap := [("a", .str "x"), ("b", .str "y|b=z")]

theorem key_fields_collide :
    extractPattern splitLeft ["a", "b"] = extractPattern splitRight ["a", "b"] ∧
      extractGroupKey splitLeft ["a", "b"] = extractGroupKey splitRight ["a", "b"] ∧
      extractField splitLeft "a" ≠ extractField splitRight "a" := by
  decide

end Santamon.Baseline
