import LookupJoin.Catalog
import LookupJoin.Settings
/-!
How a join looks up in the end. A table looks up asynchronously when that is all it offers, or when it
offers both styles and asynchronous lookups are asked for. Each option comes from the hint where the hint
has it and from the settings otherwise; an input with updates keeps its order in any case.
-/
namespace LookupJoin

structure AsyncOptions where
  enabled : Bool
  capacity : Nat
  timeoutMs : Nat
  ordering : OutputMode
deriving DecidableEq, Repr

namespace AsyncOptions

def hinted (hint : Option JoinHint) (option : JoinHint → Option α) (fallback : α) : α :=
  (hint.bind option).getD fallback

def asynchronous (capability : Capability) (requested : Bool) : Bool :=
  capability.async && (!capability.sync || requested)

def resolve (hint : Option JoinHint) (settings : LookupSettings) (capability : Capability)
    (insertOnly : Bool) : AsyncOptions where
  enabled := asynchronous capability (hinted hint JoinHint.async settings.preferAsync)
  capacity := hinted hint JoinHint.capacity settings.bufferCapacity
  timeoutMs := hinted hint JoinHint.timeoutMs settings.timeoutMs
  ordering := if insertOnly then hinted hint JoinHint.outputMode settings.outputMode else .ordered

def text (options : AsyncOptions) : String :=
  if options.enabled then
    options.ordering.text ++ ", " ++ Text.decimal options.capacity ++ ", " ++
      Text.decimal options.timeoutMs ++ "ms"
  else "false"

end AsyncOptions

end LookupJoin
