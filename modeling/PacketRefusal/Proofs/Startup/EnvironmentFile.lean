import PacketRefusal.Startup.EnvironmentFile

/-!
# Where the variables come from

A file of variables only adds to those of the environment. `EnvironmentFile.Extends` says what one
setting can do, and by induction on the lines so does a whole file
(`EnvironmentFile.extends_of_load?`): what the environment sets keeps its value, everything else
that is in effect was set by a line, and no line sets a value with a null character in it.
-/

set_option autoImplicit false
set_option relaxedAutoImplicit false

namespace PacketRefusal.EnvironmentFile

/-- Variables in which some lines added to others. -/
structure Extends (lines : List (List Char)) (environment inEffect : Variables) : Prop where
  kept : ∀ name value, environment name = some value → inEffect name = some value
  added : ∀ name value, inEffect name = some value → environment name = some value ∨
    '\x00' ∉ value.toList ∧
      ∃ line ∈ lines, ∃ known, Line.parse? known line = some (.setting name value)

variable {environment inEffect : Variables} {lines : List (List Char)}

theorem Extends.refl (lines : List (List Char)) (environment : Variables) :
    Extends lines environment environment :=
  ⟨fun _ _ hset ↦ hset, fun _ _ hset ↦ .inl hset⟩

theorem Extends.cons (line : List Char) (hrest : Extends lines environment inEffect) :
    Extends (line :: lines) environment inEffect where
  kept := hrest.kept
  added name value hset :=
    (hrest.added name value hset).imp_right fun ⟨hnull, other, hother, hparse⟩ ↦
      ⟨hnull, other, List.mem_cons_of_mem line hother, hparse⟩

/-- A line sets one variable, and only if it is not set yet. -/
theorem Extends.setting {line : List Char} {known defined : Variables} {name value : String}
    (hparse : Line.parse? known line = some (.setting name value))
    (hdefine : define? environment name value = some defined)
    (hrest : Extends lines defined inEffect) : Extends (line :: lines) environment inEffect := by
  unfold define? at hdefine
  split at hdefine
  · cases hdefine
    exact hrest.cons line
  · next hunset =>
    split at hdefine
    · cases hdefine
    · next hnull =>
      cases hdefine
      refine ⟨fun asked known hknown ↦ hrest.kept asked known ?_, fun asked known hset ↦ ?_⟩
      · have hother : asked ≠ name := by
          rintro rfl
          cases hunset.symm.trans hknown
        exact (if_neg hother).trans hknown
      · rcases (hrest.cons line).added asked known hset with hbefore | hlater
        · split at hbefore
          · next hname =>
            cases hbefore
            exact .inr ⟨hnull, line, List.mem_cons_self, _, hname ▸ hparse⟩
          · exact .inl hbefore
        · exact .inr hlater

theorem extends_of_addLines? (hadd : addLines? environment lines = some inEffect) :
    Extends lines environment inEffect := by
  induction lines generalizing environment with
  | nil =>
    cases hadd
    exact .refl [] _
  | cons line lines ih =>
    unfold addLines? at hadd
    split at hadd
    · cases hadd
      exact .refl _ _
    · exact (ih hadd).cons line
    · next name value hparse =>
      obtain ⟨defined, hdefine, hrest⟩ := Option.bind_eq_some_iff.mp hadd
      exact .setting hparse hdefine (ih hrest)

/-- What is in effect once a file was read extends the environment by settings of its lines. -/
theorem extends_of_load? {file : String} (hload : load? environment file = some inEffect) :
    Extends (Text.pieces '\n' file.toList) environment inEffect :=
  extends_of_addLines? hload

end PacketRefusal.EnvironmentFile
