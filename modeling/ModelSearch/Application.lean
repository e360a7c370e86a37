import ModelSearch.Text.Lower
import ModelSearch.Text.Quote

/-!
# Applications

The problem domain that a model solves.  Each application has a path, the text that configurations
use, and `Application.of?` finds it from the path in any case and with blanks around it.

    of? a.path = some a                      (Application.of?_path)
-/

namespace ModelSearch

inductive Application where
  | undefined
  | imageClassification
  | objectDetection
  | semanticSegmentation
  | instanceSegmentation
  | poseEstimation
  | actionRecognition
  | imageGeneration
  | questionAnswer
  | textClassification
  | sentimentAnalysis
  | textEmbedding
  | textGeneration
  | machineTranslation
  | speechRecognition
  | tabularRegression
  | timeSeriesForecasting
  deriving DecidableEq, Repr

namespace Application

/-- Every application, in the order in which they are listed. -/
def all : List Application :=
  [undefined, imageClassification, objectDetection, semanticSegmentation, instanceSegmentation,
   poseEstimation, actionRecognition, imageGeneration, questionAnswer, textClassification,
   sentimentAnalysis, textEmbedding, textGeneration, machineTranslation, speechRecognition,
   tabularRegression, timeSeriesForecasting]

def path : Application → String
  | undefined => "undefined"
  | imageClassification => "cv/image_classification"
  | objectDetection => "cv/object_detection"
  | semanticSegmentation => "cv/semantic_segmentation"
  | instanceSegmentation => "cv/instance_segmentation"
  | poseEstimation => "cv/pose_estimation"
  | actionRecognition => "cv/action_recognition"
  | imageGeneration => "cv/image_generation"
  | questionAnswer => "nlp/question_answer"
  | textClassification => "nlp/text_classification"
  | sentimentAnalysis => "nlp/sentiment_analysis"
  | textEmbedding => "nlp/text_embedding"
  | textGeneration => "nlp/text_generation"
  | machineTranslation => "nlp/machine_translation"
  | speechRecognition => "audio/speech_recognition"
  | tabularRegression => "tabular/linear_regression"
  | timeSeriesForecasting => "timeseries/forecasting"

/-- The name of the application's constant. -/
def constant : Application → String
  | undefined => "UNDEFINED"
  | imageClassification => "IMAGE_CLASSIFICATION"
  | objectDetection => "OBJECT_DETECTION"
  | semanticSegmentation => "SEMANTIC_SEGMENTATION"
  | instanceSegmentation => "INSTANCE_SEGMENTATION"
  | poseEstimation => "POSE_ESTIMATION"
  | actionRecognition => "ACTION_RECOGNITION"
  | imageGeneration => "IMAGE_GENERATION"
  | questionAnswer => "QUESTION_ANSWER"
  | textClassification => "TEXT_CLASSIFICATION"
  | sentimentAnalysis => "SENTIMENT_ANALYSIS"
  | textEmbedding => "TEXT_EMBEDDING"
  | textGeneration => "TEXT_GENERATION"
  | machineTranslation => "MACHINE_TRANSLATION"
  | speechRecognition => "SPEECH_RECOGNITION"
  | tabularRegression => "TABULAR_REGRESSION"
  | timeSeriesForecasting => "TIME_SERIES_FORECASTING"

/-- The application whose path is exactly `path`. -/
def withPath? (path : String) : Option Application := all.find? fun a => a.path = path

/-- A path without the blanks around it, in lower case. -/
def normalPath (path : String) : String := Text.lowered (Text.stripped path)

/-- The application that a path names, whatever its case. -/
def of? (path : String) : Option Application := withPath? (normalPath path)

/-- What is said of a path that names none. -/
def unknownMessage (path : String) : String :=
  Text.quoted (normalPath path) ++ " is not a valid Application"

/-! ## Lemmas -/

theorem mem_all (a : Application) : a ∈ all := by cases a <;> decide

theorem of?_path (a : Application) : of? a.path = some a := by cases a <;> decide +kernel

end Application

end ModelSearch
