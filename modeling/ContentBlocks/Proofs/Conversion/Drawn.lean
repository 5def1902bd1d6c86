import ContentBlocks.Proofs.Conversion.Run
import Mathlib.Data.List.Nodup

/-!
# Keys drawn in a row

The keys that a run draws are the answers of the source to the calls from the number at which the
run began up to the number at which it ended. Runs one after the other draw keys one after the
other, so what a whole run draws is put together from what its parts draw.

## Main definitions

* `Drawn source start keys stop`: the answers of the source from `start` up to `stop`

## Main results

* `drawn_iff`: the keys drawn are the answers to the calls in between, in order
* `Drawn.nodup`: a source that never repeats itself gives keys that are all different
* `Drawn.flatMap`: what runs in a row draw
-/

namespace ContentBlocks.Conversion

variable {α β : Type} {source : Key.Source}

/-- The keys that the source answers to the calls from `start` up to `stop`. -/
inductive Drawn (source : Key.Source) : Nat → List String → Nat → Prop where
  | nil (start) : Drawn source start [] start
  | cons {start key keys stop} (head : source start = .ok key)
      (tail : Drawn source (start + 1) keys stop) : Drawn source start (key :: keys) stop

variable {start mid stop : Nat} {keys keys' : List String} {key : String}

theorem Drawn.one (h : source start = .ok key) : Drawn source start [key] (start + 1) :=
  .cons h (.nil _)

theorem Drawn.append (h : Drawn source start keys mid) (h' : Drawn source mid keys' stop) :
    Drawn source start (keys ++ keys') stop := by
  induction h with
  | nil => exact h'
  | cons head _ ih => exact .cons head (ih h')

/-- The number of calls is the number of keys. -/
theorem Drawn.stop_eq (h : Drawn source start keys stop) : stop = start + keys.length := by
  induction h with
  | nil => rfl
  | cons _ _ ih =>
    rw [ih, List.length_cons]
    omega

/-- **The keys drawn** are the answers to the calls in between, in order. -/
theorem drawn_iff :
    Drawn source start keys stop ↔
      start ≤ stop ∧ keys.map .ok = (List.range' start (stop - start)).map source := by
  constructor
  · intro h
    induction h with
    | nil start => simp
    | @cons start key keys stop head tail ih =>
      have hlt : stop - start = (stop - (start + 1)) + 1 := by omega
      refine ⟨by omega, ?_⟩
      rw [hlt, List.range'_succ, List.map_cons, List.map_cons, head, ih.2]
  · rintro ⟨hle, h⟩
    obtain ⟨count, rfl⟩ := Nat.exists_eq_add_of_le hle
    rw [Nat.add_sub_cancel_left] at h
    clear hle
    -- on the number of calls, since the keys are only known through their answers
    induction count generalizing start keys with
    | zero =>
      rw [List.map_eq_nil_iff.mp h]
      exact .nil _
    | succ count ih =>
      cases keys with
      | nil => simp at h
      | cons key keys =>
        rw [List.range'_succ, List.map_cons, List.map_cons, List.cons.injEq] at h
        rw [show start + (count + 1) = start + 1 + count by omega]
        exact .cons h.1.symm (ih h.2)

/-- Every key drawn is an answer of the source. -/
theorem Drawn.exists_of_mem (h : Drawn source start keys stop) (hk : key ∈ keys) :
    ∃ i, source i = .ok key := by
  induction h with
  | nil => cases hk
  | cons head _ ih =>
    rcases List.mem_cons.mp hk with rfl | hk
    · exact ⟨_, head⟩
    · exact ih hk

/-- **Keys are distinct** where the source never gives one answer to two calls. -/
theorem Drawn.nodup (h : Drawn source start keys stop)
    (hs : ∀ i j k, source i = .ok k → source j = .ok k → i = j) : keys.Nodup := by
  obtain ⟨-, hmap⟩ := drawn_iff.mp h
  refine List.Nodup.of_map (Except.ok (ε := Key.Failure)) ?_
  rw [hmap]
  refine List.Nodup.map_on ?_ List.nodup_range'
  -- both calls were answered, or their answers would not be among the keys
  intro i hi j _ hij
  have hmem : source i ∈ keys.map .ok := hmap ▸ List.mem_map_of_mem hi
  obtain ⟨k, -, hk⟩ := List.mem_map.mp hmem
  exact hs i j k hk.symm (hij ▸ hk.symm)

/-- A source that answers the calls to come gives keys for them. -/
theorem exists_drawn_iff {count : Nat} :
    (∃ keys stop, Drawn source start keys stop ∧ keys.length = count) ↔
      ∀ i < count, ∃ key, source (start + i) = .ok key := by
  induction count generalizing start with
  | zero =>
    refine ⟨fun _ i hi => absurd hi (Nat.not_lt_zero i), fun _ => ⟨[], start, .nil _, rfl⟩⟩
  | succ count ih =>
    constructor
    · rintro ⟨_, stop, h, hlen⟩ i hi
      cases h with
      | nil => simp at hlen
      | @cons _ key keys _ head tail =>
        cases i with
        | zero => exact ⟨key, head⟩
        | succ i =>
          rw [show start + (i + 1) = start + 1 + i by omega]
          exact ih.mp ⟨keys, stop, tail, by simpa using hlen⟩ i (by omega)
    · intro h
      obtain ⟨key, head⟩ := h 0 (by omega)
      have htail : ∀ i < count, ∃ key, source (start + 1 + i) = .ok key := by
        intro i hi
        rw [show start + 1 + i = start + (i + 1) by omega]
        exact h (i + 1) (by omega)
      obtain ⟨keys, stop, tail, rfl⟩ := ih.mpr htail
      exact ⟨key :: keys, stop, .cons head tail, rfl⟩

/-- Runs in a row draw what each of them draws, in order. -/
theorem Drawn.flatMap {f : α → Keyed β} {drawnBy : β → List String}
    (hf : ∀ {x a y b}, (f x).run source a = .ok (y, b) → Drawn source a (drawnBy y) b)
    {xs : List α} {ys : List β} (h : (xs.mapM f).run source start = .ok (ys, stop)) :
    Drawn source start (ys.flatMap drawnBy) stop := by
  induction xs generalizing ys start with
  | nil =>
    obtain ⟨rfl, rfl⟩ := run_pure_eq_ok.mp h
    exact .nil _
  | cons x xs ih =>
    rw [List.mapM_cons] at h
    simp only [run_bind_eq_ok, run_pure_eq_ok] at h
    obtain ⟨y, mid, hx, ys', _, hxs, rfl, rfl⟩ := h
    exact (hf hx).append (ih hxs)

end ContentBlocks.Conversion
