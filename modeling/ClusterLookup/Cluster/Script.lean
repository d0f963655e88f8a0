import ClusterLookup.Cluster.Adapter

/-!
# A scripted API

An API whose answers are laid down: a catalogue of resources, and the answers to reads, one after
another. When these are used up every read answers with an empty object.
-/

namespace ClusterLookup

/-- A resource of the catalogue, or the fault that asking for it meets. -/
structure CatalogueEntry where
  apiVersion : String
  kind : String
  answer : Except Failure Resource

structure Script where
  catalogue : List CatalogueEntry
  reads : List (Except Failure Document)

namespace Script

/-- The first resource of the catalogue for an apiVersion and kind. -/
def resource (apiVersion kind : String) (script : Script) : Except Failure Resource × Script :=
  match script.catalogue.find? fun e => e.apiVersion == apiVersion && e.kind == kind with
  | some e => (e.answer, script)
  | none => (.error (.unknownResource ""), script)

def read (_request : ReadRequest) (script : Script) : Except Failure Document × Script :=
  match script.reads with
  | [] => (.ok (.object []), script)
  | answer :: reads => (answer, { script with reads })

def api : ClusterApi Script := ⟨resource, read⟩

end Script

end ClusterLookup
