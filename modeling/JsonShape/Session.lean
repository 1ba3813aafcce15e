import JsonShape.Shape

/-!
# Sessions

A session collects documents and works on a current tree, one step at a time.  A
step that fails changes nothing.
-/

set_option autoImplicit false

namespace JsonShape

structure Session where
  config : Config := {}
  documents : List Json := []
  /-- The current tree, once there is one. -/
  tree : Option Node := none
  deriving Inhabited

inductive SessionStep where
  | configure (config : Json)
  | add (document : Json)
  | pop
  | infer
  | prune (spec : Spec)
  /-- Prunes the current tree and keeps it as it is. -/
  | tryPrune (spec : Spec)
  /-- Makes a described tree the current one. -/
  | force (description : Spec)
  | report
  | generate
  | describe
  | render

inductive SessionReply where
  | config (config : Config)
  | raw (node : Node)
  | count (documents : Nat)
  | tree (node : Node)
  | pruned (result kept : Node)
  | code (text : String)
  | description (json : Json)

inductive SessionError where
  | config (error : ConfigError)
  | classify (error : ClassifyError)
  | noDocument
  | noTree
  | shape (error : ShapeError)
  | selection (error : SelectionError)
  | description (error : DescriptionError)
  | render (error : Go.RenderError)
  deriving DecidableEq, Repr

namespace SessionError

def message : SessionError → String
  | config error => error.message
  | classify error => error.message
  | noDocument => "pop from empty list"
  | noTree => "There is no tree yet"
  | shape error => error.message
  | selection error => error.message
  | description error => error.message
  | render error => error.message

end SessionError

namespace Session

def current (session : Session) : Except SessionError Node :=
  match session.tree with
  | some node => .ok node
  | none => .error .noTree

/-- Makes a tree the current one. -/
def withTree (session : Session) (node : Node) : Session × SessionReply :=
  ({ session with tree := some node }, .tree node)

/-- The session after a step, and the reply to it. -/
def step [Room] (session : Session) : SessionStep → Except SessionError (Session × SessionReply)
  | .configure json => do
    let config ← (Config.ofJson json).mapError .config
    pure ({ session with config }, .config config)
  | .add document => do
    let node ← (JsonShape.classify document).mapError .classify
    pure ({ session with documents := session.documents ++ [document] }, .raw node)
  | .pop =>
    if session.documents.isEmpty then .error .noDocument
    else
      let documents := session.documents.dropLast
      .ok ({ session with documents }, .count documents.length)
  | .infer => do
    let node ← (JsonShape.infer session.config session.documents).mapError .shape
    pure (session.withTree node)
  | .prune spec => do
    let node ← ((← session.current).prune spec).mapError .selection
    pure (session.withTree node)
  | .tryPrune spec => do
    let kept ← session.current
    let result ← (kept.prune spec).mapError .selection
    pure (session, .pruned result kept)
  | .force description => do
    let node ← (Node.ofDescription description).mapError .description
    pure (session.withTree node)
  | .report => do pure (session, .tree (← session.current))
  | .generate => do
    let text ← (JsonShape.generate session.config .go session.documents).mapError .shape
    pure (session, .code text)
  | .describe => do
    let json ← (JsonShape.describe session.config session.documents).mapError .shape
    pure (session, .description json)
  | .render => do
    let text ← (Go.sourceText session.config (← session.current)).mapError .render
    pure (session, .code (String.ofList text))

/-- The replies to all steps; after a failing step the session is as before it. -/
def runAll [Room] (session : Session) : List SessionStep → List (Except SessionError SessionReply)
  | [] => []
  | step :: rest =>
    match session.step step with
    | .ok (next, reply) => .ok reply :: runAll next rest
    | .error error => .error error :: runAll session rest

end Session

end JsonShape
