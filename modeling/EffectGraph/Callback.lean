/-!
# Callbacks of the library

The nodes that the library builds need continuations and thunks of its own.  Each is data: a
constructor that says which callback it is and what it closes over, over the values `α` of the
scripting language.  What a callback does when it is called is said in `EffectGraph.Callback.Run`;
here stands what it is, how many arguments it takes and the name it is reported under.
-/

namespace EffectGraph

/-- What turns an element into a node inside a loop over elements. -/
inductive Mapper (α : Type) where
  /-- Apply a function of the script. -/
  | apply (f : α)
  /-- The element is the node. -/
  | same
  /-- Multiply a cell by the element. -/
  | scale (cell : α)

/-- How two results are combined. -/
inductive Combiner (α : Type) where
  | apply (f : α)
  | pair

/-- How a cell's content is changed. -/
inductive Update (α : Type) where
  | apply (f : α)
  | multiply (factor : α)

/-- The step of a fold. -/
inductive FoldStep (α : Type) where
  /-- Apply a function of the script to accumulator and element. -/
  | apply (f : α)
  /-- Run the element's node and drop its value. -/
  | discard (mapper : Mapper α)
  /-- Run the element's node and append its value to a list. -/
  | collect (results : Nat) (mapper : Mapper α)
  /-- Run one and the same node, dropping its value. -/
  | again (node : α)

/-- What a suspended node builds when it is reached. -/
inductive Factory (α : Type) where
  | apply (f : α)
  | fold (elements initial : α) (step : FoldStep α)
  | traverse (items : α) (mapper : Mapper α)
  | replicate (count : Int) (node : α)
  | doWhile (body condition : α)
  | whileLoop (condition body : α)
  | forever (node : α)
  /-- Call a function and run the generator it returns. -/
  | generate (f : α) (args : List α) (keywords : List (String × α))

/-- A continuation or thunk made by the library. -/
inductive Callback (α : Type) where
  /-- Finish with the function's result. -/
  | mapWith (f : α)
  /-- Go on with another node. -/
  | thenRun (other : α)
  /-- Finish with no value. -/
  | toUnit
  /-- Finish with a fixed value. -/
  | replaceWith (value : α)
  /-- Finish with the value as a success. -/
  | wrapOk
  /-- Finish with the fault as a failure. -/
  | wrapErr
  | pairOuter (second : α)
  | pairInner (first : α)
  | suspended (factory : Factory α)
  | map2Outer (second : α) (combiner : Combiner α)
  | map2Inner (first : α) (combiner : Combiner α)
  /-- Pull the next element, with the value as the accumulator. -/
  | foldNext (iterator : α) (step : FoldStep α)
  /-- Append the value to a list of results. -/
  | appendTo (results : Nat)
  /-- Finish with a list of results. -/
  | giveList (results : Nat)
  | replicateNext (results : Nat) (count : Int) (node : α)
  | doWhileCheck (body condition : α)
  | doWhileAgain (body condition : α)
  | whileTest (condition body : α)
  | whileNext (condition body : α)
  | foreverNext (node : α)
  /-- Send the value into a generator. -/
  | resume (generator : α)
  | raiseFault (fault : α)
  | writeCell (address : Nat) (value : α)
  | updateCell (address : Nat) (update : Update α)
  | newCell (initial : α)
  /-- Read a text as a number. -/
  | parse
  /-- Multiply a value by a factor. -/
  | times (factor : α)
  /-- Compute a factorial in a fresh cell. -/
  | factorialIn (n : α)
  /-- Print a temperature and keep it. -/
  | reportCelsius (console : α)
  /-- Make the generator of one round of the factorial dialogue. -/
  | startDialogue (console : α)

namespace Callback

variable {α : Type}

/-- The names of the arguments that a callback takes: one for a continuation, none for a thunk. -/
def parameters : Callback α → List String
  | mapWith _ => ["value"]
  | thenRun _ => ["_"]
  | toUnit => ["_"]
  | replaceWith _ => ["_"]
  | wrapOk => ["value"]
  | wrapErr => ["error"]
  | pairOuter _ => ["a"]
  | pairInner _ => ["b"]
  | suspended _ => ["_"]
  | map2Outer _ _ => ["a"]
  | map2Inner _ _ => ["b"]
  | foldNext _ _ => ["next_acc"]
  | appendTo _ => ["value"]
  | giveList _ => ["_"]
  | replicateNext _ _ _ => ["value"]
  | doWhileCheck _ _ => ["result"]
  | doWhileAgain _ _ => ["again"]
  | whileTest _ _ => ["again"]
  | whileNext _ _ => ["_"]
  | foreverNext _ => ["_"]
  | resume _ => ["sent"]
  | factorialIn _ => ["acc"]
  | reportCelsius _ => ["c"]
  | parse => ["text"]
  | times _ => ["x"]
  | raiseFault _ => []
  | writeCell _ _ => []
  | updateCell _ _ => []
  | newCell _ => []
  | startDialogue _ => []

/-- The name that a callback is reported under. -/
def name : Callback α → String
  | mapWith _ => "EffectNode.map.<locals>.<lambda>"
  | thenRun _ => "EffectNode.then.<locals>.<lambda>"
  | toUnit => "_to_unit"
  | replaceWith _ => "EffectNode.as_.<locals>.<lambda>"
  | wrapOk => "EffectNode.attempt.<locals>.<lambda>"
  | wrapErr => "EffectNode.attempt.<locals>.<lambda>"
  | pairOuter _ => "EffectNode.__pow__.<locals>.<lambda>"
  | pairInner _ => "EffectNode.__pow__.<locals>.<lambda>.<locals>.<lambda>"
  | suspended _ => "suspend.<locals>.<lambda>"
  | map2Outer _ _ => "map2.<locals>.<lambda>"
  | map2Inner _ _ => "map2.<locals>.<lambda>.<locals>.<lambda>"
  | foldNext _ _ => "fold_m.<locals>.go.<locals>.<lambda>"
  | appendTo _ => "traverse.<locals>.start.<locals>.collect.<locals>.<lambda>"
  | giveList _ => "traverse.<locals>.start.<locals>.<lambda>"
  | replicateNext _ _ _ => "replicate_m.<locals>.start.<locals>.step"
  | doWhileCheck _ _ => "do_while.<locals>.check"
  | doWhileAgain _ _ => "do_while.<locals>.check.<locals>.<lambda>"
  | whileTest _ _ => "while_m.<locals>.loop.<locals>.<lambda>"
  | whileNext _ _ => "while_m.<locals>.loop.<locals>.<lambda>.<locals>.<lambda>"
  | foreverNext _ => "forever.<locals>.loop.<locals>.<lambda>"
  | resume _ => "_resume.<locals>.<lambda>"
  | factorialIn _ => "factorial.<locals>.<lambda>"
  | reportCelsius _ => "main.<locals>.<lambda>"
  | raiseFault _ => "fail.<locals>.raise_error"
  | writeCell _ _ => "Ref.set.<locals>.write"
  | updateCell _ _ => "Ref.modify.<locals>.update"
  | newCell _ => "ref.<locals>.<lambda>"
  | parse => "_parse"
  | times _ => "factorial.<locals>.<lambda>.<locals>.<lambda>.<locals>.<lambda>"
  | startDialogue _ => "main.<locals>.step"

/-- Is there only one such callback, shared by all nodes that use it? -/
def isShared : Callback α → Bool
  | toUnit => true
  | parse => true
  | _ => false

end Callback
end EffectGraph
