import Sas.Rxc.Mirror

/-! # Worlds seen through a map

What a running pipeline does can be followed through a map of its world, if the source of the
pipeline can: a pull or a cancellation looks at the link, and hands the world to the source.
-/

namespace Sas.Rxc

variable {World : Type}

/-- The pipeline with its world seen through a map. -/
def Started.seen (view : World → World) (started : Started World) : Started World :=
  ⟨started.link, view started.world⟩

/-- An action on the world that is seen does what is seen of the action. -/
def Erases (view : World → World) (action : Action World) : Prop :=
  ∀ started, action (started.seen view) = (action started).map (Started.seen view)

/-- A source whose callbacks can be followed through a map. -/
structure ErasesSource (view : World → World) (source : SourceLogic World) : Prop where
  onPull : ∀ n, Erases view (source.onPull n)
  onDownstreamFinish : Erases view source.onDownstreamFinish

section

variable {view : World → World} {source : SourceLogic World} {first second : Action World}

/-- What can be followed mirrors itself. -/
theorem ErasesSource.mirrors (erases : ErasesSource view source) :
    MirrorsSource view source source where
  onPull := erases.onPull
  onDownstreamFinish := erases.onDownstreamFinish

theorem Erases.bind (earlier : Erases view first) (later : Erases view second) :
    Erases view fun started => (first started).bind second :=
  Mirrors.bind earlier later

theorem erases_pipelineInletPull (erases : ErasesSource view source) (rounds : Nat) (n : Int) :
    Erases view (pipelineInletPull source rounds n) :=
  mirrors_pipelineInletPull erases.mirrors rounds n

theorem erases_pipelineInletCancel (erases : ErasesSource view source) :
    Erases view (pipelineInletCancel source) :=
  mirrors_pipelineInletCancel erases.mirrors

end

end Sas.Rxc
