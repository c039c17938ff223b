import SearchClient.Proofs.Json.Record

/-!
# Records read in part

A shape with further fields accepts no more than the shape without them, and
reads the same into what the further fields leave alone.
-/

namespace SearchClient.Shape

variable {σ α : Type}

/--
The fields of `narrow` come first in `wide`; they put the same into what `view`
shows of two records in which it shows the same, and the other fields of `wide`
put nothing there.
-/
structure Extends (view : σ → α) (wide narrow : Shape σ)
    (more : List (Field σ)) : Prop where
  fields : wide.fields = narrow.fields ++ more
  start : view wide.start = view narrow.start
  shared : ∀ field ∈ narrow.fields, ∀ j record next other,
    view record = view other → field.put j record = .ok next →
      ∃ following, field.put j other = .ok following ∧
        view next = view following
  more : ∀ field ∈ more, ∀ j record next, field.put j record = .ok next →
    view next = view record
  optional : ∀ field ∈ narrow.fields, field.isRequired = false

namespace Extends

variable {view : σ → α} {wide narrow : Shape σ} {more : List (Field σ)}

structure Follows (view : σ → α) (ahead behind : Progress σ) : Prop where
  record : view ahead.record = view behind.record
  seen : ∀ name ∈ behind.seen, name ∈ ahead.seen

theorem take (h : Extends view wide narrow more)
    {ahead behind next : Progress σ} {entry : String × Json}
    (hfollows : Follows view ahead behind)
    (htake : wide.take ahead entry = .ok next) :
    ∃ following, narrow.take behind entry = .ok following ∧
      Follows view next following := by
  rcases take_eq_ok.1 htake with
    ⟨hfind, rfl⟩ | ⟨field, record, hfind, hseen, hput, rfl⟩
  · rw [h.fields, List.find?_append, Option.or_eq_none_iff] at hfind
    exact ⟨_, take_eq_ok.2 (.inl ⟨hfind.1, rfl⟩), hfollows.record,
      hfollows.seen⟩
  · rw [h.fields, List.find?_append, Option.or_eq_some_iff] at hfind
    rcases hfind with hfind | ⟨hnone, hfind⟩
    · obtain ⟨following, hfollowing, hview⟩ :=
        h.shared field (List.mem_of_find?_eq_some hfind) entry.2 ahead.record
          record behind.record hfollows.record hput
      have hnew : field.name ∉ behind.seen :=
        fun hmem => hseen (hfollows.seen _ hmem)
      refine ⟨_, take_eq_ok.2
        (.inr ⟨field, following, hfind, hnew, hfollowing, rfl⟩), hview, ?_⟩
      intro name hname
      rcases List.mem_cons.1 hname with rfl | hname
      · exact List.mem_cons_self
      · exact List.mem_cons_of_mem _ (hfollows.seen name hname)
    · have hview := h.more field (List.mem_of_find?_eq_some hfind) entry.2
        ahead.record record hput
      exact ⟨_, take_eq_ok.2 (.inl ⟨hnone, rfl⟩), hview.trans hfollows.record,
        fun name hname => List.mem_cons_of_mem _ (hfollows.seen name hname)⟩

theorem foldlM_take (h : Extends view wide narrow more)
    {entries : List (String × Json)} {ahead behind last : Progress σ}
    (hfollows : Follows view ahead behind)
    (hfold : entries.foldlM wide.take ahead = .ok last) :
    ∃ following, entries.foldlM narrow.take behind = .ok following ∧
      Follows view last following := by
  induction entries generalizing ahead behind with
  | nil =>
      rw [← Except.ok.inj hfold]
      exact ⟨behind, rfl, hfollows⟩
  | cons entry entries ih =>
      rw [List.foldlM_cons] at hfold
      obtain ⟨next, htake, hrest⟩ := Except.bind_eq_ok.1 hfold
      obtain ⟨middle, hmiddle, hnext⟩ := h.take hfollows htake
      obtain ⟨following, hfollowing, hlast⟩ := ih hnext hrest
      refine ⟨following, ?_, hlast⟩
      rw [List.foldlM_cons, hmiddle]
      exact hfollowing

theorem decode_object (h : Extends view wide narrow more)
    {entries : List (String × Json)} {record : σ}
    (hread : wide.decode (.object entries) = .ok record) :
    ∃ other, narrow.decode (.object entries) = .ok other ∧
      view record = view other := by
  obtain ⟨⟨record, leftOver⟩, hentries, rfl⟩ := Except.map_eq_ok.1 hread
  obtain ⟨progress, hfold, hrest⟩ := Except.bind_eq_ok.1 hentries
  have hstart : Follows view ⟨wide.start, [], []⟩ ⟨narrow.start, [], []⟩ :=
    ⟨h.start, by simp⟩
  obtain ⟨following, hfollowing, hlast⟩ := h.foldlM_take hstart hfold
  have hmissing : narrow.missing? following.seen = none :=
    List.find?_eq_none.2 fun field hmem => by simp [h.optional field hmem]
  refine ⟨following.record, ?_, ?_⟩
  · refine Except.map_eq_ok.2 ⟨(following.record, following.leftOver), ?_, rfl⟩
    rw [decodeEntries, hfollowing, Except.ok_bind, hmissing]
  · split at hrest
    · contradiction
    · rw [← Except.ok.inj hrest]
      exact hlast.record

end Extends

end SearchClient.Shape
