import CodeSmells.Detector.Comments
import CodeSmells.Detector.DataClass
import CodeSmells.Detector.DataClumps
import CodeSmells.Detector.DivergentChange
import CodeSmells.Detector.DuplicateCode
import CodeSmells.Detector.FeatureEnvy
import CodeSmells.Detector.GlobalState
import CodeSmells.Detector.InappropriateIntimacy
import CodeSmells.Detector.LargeClass
import CodeSmells.Detector.LazyClass
import CodeSmells.Detector.LongMethod
import CodeSmells.Detector.LongParameterList
import CodeSmells.Detector.MessageChains
import CodeSmells.Detector.MiddleMan
import CodeSmells.Detector.PrimitiveObsession
import CodeSmells.Detector.RefusedBequest
import CodeSmells.Detector.ShotgunSurgery
import CodeSmells.Detector.SpeculativeGenerality
import CodeSmells.Detector.SwitchStatements
import CodeSmells.Detector.TemporaryField

/-!
The catalog of detectors, in the order in which they run.
-/

set_option autoImplicit false

namespace CodeSmells.Catalog

/-- Every detector. -/
def detectors : List Detector :=
  [LongMethod.detector, LargeClass.detector, DuplicateCode.detector, LongParameterList.detector,
   FeatureEnvy.detector, DataClumps.detector, PrimitiveObsession.detector,
   SwitchStatements.detector, LazyClass.detector, SpeculativeGenerality.detector,
   TemporaryField.detector, MessageChains.detector, MiddleMan.detector,
   InappropriateIntimacy.detector, DataClass.detector, RefusedBequest.detector, Comments.detector,
   GlobalState.detector, ShotgunSurgery.detector, DivergentChange.detector]

/-- The names of the detectors in order. -/
def names : List String :=
  detectors.map (·.name)

/-- Why detectors cannot be chosen. -/
inductive LookupError where
  | unknownName (name : String)
  | unknownNames (names : List String)
deriving DecidableEq, Inhabited

/-- The wording of each reason. -/
def LookupError.message : LookupError → String
  | unknownName name => "Unknown detector: " ++ name
  | unknownNames names => "Unknown detector(s): " ++ String.intercalate ", " names

/-- The detector of a name. -/
def find (name : String) : Except LookupError Detector :=
  match detectors.find? fun d => d.name == name with
  | some d => .ok d
  | none => .error (.unknownName name)

/-- The detectors of some names, in the order of the catalog. -/
def select (wanted : List String) : Except LookupError (List Detector) :=
  let unknown := wanted.filter fun n => !names.contains n
  if unknown.isEmpty then .ok (detectors.filter fun d => wanted.contains d.name)
  else .error (.unknownNames (sortedSet unknown))

/-- Every threshold with its default. -/
def defaultThresholds : Entries :=
  Entries.ofList (detectors.flatMap (·.defaults))

/-- The thresholds that are ratios. -/
def ratioThresholds : List String :=
  sortedSet (detectors.flatMap (·.ratioKeys))

end CodeSmells.Catalog
