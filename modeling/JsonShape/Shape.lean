import JsonShape.Go.Source
import JsonShape.Inference.Classify
import JsonShape.Inference.Unify
import JsonShape.Selection

/-!
# The shape of a set of documents

The documents are classified, merged into one finished tree and reduced by the
configured filter.  The result is written as source text or as a description.
-/

set_option autoImplicit false

namespace JsonShape

/-- The languages in which a type can be written. -/
inductive Language where
  | go
  deriving DecidableEq, Repr

namespace Language

def name : Language → String
  | go => "go"

def ofName? (name : String) : Option Language := [go].find? (·.name == name)

end Language

inductive ShapeError where
  | unsupportedLanguage (name : String)
  | classify (error : ClassifyError)
  | unify (error : UnifyError)
  | selection (error : SelectionError)
  | render (error : Go.RenderError)
  | renderTooDeep (language : Language)
  | describeTooDeep
  deriving DecidableEq, Repr

namespace ShapeError

def message : ShapeError → String
  | unsupportedLanguage name => String.join ["Language '", name, "' is not supported"]
  | classify error => error.message
  | unify error => error.message
  | selection error => error.message
  | render error => error.message
  | renderTooDeep language =>
    String.join ["Inferred type is nested too deeply to render as ", language.name]
  | describeTooDeep => "Inferred type is nested too deeply to serialize"

end ShapeError

/-- The finished tree of all the documents, before any filter. -/
def inferAll [Room] (documents : List Json) : Except ShapeError Node := do
  let nodes ← (documents.mapM classify).mapError .classify
  (unify nodes).mapError .unify

/-- Reduces a tree by the configured filter, if there is one. -/
def applyFilter [Room] (config : Config) (node : Node) : Except ShapeError Node :=
  match config.filter with
  | none => .ok node
  | some members => (node.prune (Spec.ofJson (.obj members))).mapError .selection

/-- The finished tree of the documents under a configuration. -/
def infer [Room] (config : Config) (documents : List Json) : Except ShapeError Node := do
  applyFilter config (← inferAll documents)

/-- The source text for a tree in a language. -/
def render [Room] (config : Config) (language : Language) (node : Node) :
    Except ShapeError String :=
  match language with
  | .go =>
    if Room.declaration < Go.textDepth node then .error (.renderTooDeep language)
    else ((Go.sourceText config node).map String.ofList).mapError .render

/-- The source text for the type of the documents. -/
def generate [Room] (config : Config) (language : Language) (documents : List Json) :
    Except ShapeError String := do
  render config language (← infer config documents)

/-- The description of the type of the documents. -/
def describe [Room] (config : Config) (documents : List Json) : Except ShapeError Json := do
  match (← infer config documents).describe? with
  | some description => pure description
  | none => throw .describeTooDeep

/-- The language of the given name. -/
def languageNamed (name : String) : Except ShapeError Language :=
  match Language.ofName? name with
  | some language => .ok language
  | none => .error (.unsupportedLanguage name)

end JsonShape
