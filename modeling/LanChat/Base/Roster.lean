import Mathlib.Data.Set.Insert
import Mathlib.Data.List.Basic

/-!
# Rosters from a snapshot and a feed

An observer of a group starts from a snapshot of who is there and then follows a
feed of arrivals and departures. Between an arrival or a departure and its notice the
observer may be behind, so its view is held between two sets (`Between`): those
whose arrival has been told are in it, and nobody is in it whose departure has been
told. Where nobody is under way the two sets are one, and the view is exact.
-/

namespace Roster

variable {ι : Type*} {told told' here here' view : Set ι} {who : ι}

inductive Event (ι : Type*) where
  | joined (who : ι)
  | left (who : ι)

def Event.apply (view : Set ι) : Event ι → Set ι
  | joined who => insert who view
  | left who => view \ {who}

/-- The view after a feed. -/
def after (view : Set ι) (feed : List (Event ι)) : Set ι := feed.foldl Event.apply view

@[simp] theorem after_nil : after view [] = view := rfl

@[simp] theorem after_append (feed rest : List (Event ι)) :
    after view (feed ++ rest) = after (after view feed) rest := List.foldl_append

structure Between (told here view : Set ι) : Prop where
  lower : told ⊆ view
  upper : view ⊆ here

namespace Between

/-- Nobody new has been told of, and nobody has left. -/
theorem mono (between : Between told here view) (fewer : told' ⊆ told) (more : here ⊆ here') :
    Between told' here' view := ⟨fewer.trans between.lower, between.upper.trans more⟩

/-- An arrival is told. -/
theorem join (between : Between told here view) (fewer : told' ⊆ insert who told) (more : here ⊆ here')
    (present : who ∈ here') : Between told' here' (Event.apply view (.joined who)) := by
  constructor
  · exact fewer.trans (Set.insert_subset_insert between.lower)
  · exact Set.insert_subset present (between.upper.trans more)

/-- A departure is told. -/
theorem leave (between : Between told here view) (fewer : told' ⊆ told) (gone : who ∉ told')
    (more : here ⊆ insert who here') : Between told' here' (Event.apply view (.left who)) := by
  constructor
  · intro other isTold
    refine ⟨between.lower (fewer isTold), ?_⟩
    rintro rfl
    exact gone isTold
  · rintro other ⟨inView, notWho⟩
    exact (more (between.upper inView)).resolve_left notWho

/-- **Once everybody there has been told of**, the view is exact. -/
theorem settled (between : Between told here view) (all : here ⊆ told) : view = here :=
  Set.Subset.antisymm between.upper (all.trans between.lower)

end Between

end Roster
