import TypeResolution.Main
import TypeResolution.Resolver.Overlap
import TypeResolution.TypeHandle.Description
import TypeResolution.Proofs.Nested.Errors
import TypeResolution.Proofs.Nested.Keys
import TypeResolution.Proofs.Nested.Origin
import TypeResolution.Proofs.Precedence
import TypeResolution.Proofs.Effect
import TypeResolution.Proofs.Independence
import TypeResolution.Proofs.Nested.Agreement
import TypeResolution.Proofs.Inquiries
import TypeResolution.Proofs.Session
import TypeResolution.Proofs.Layout
import TypeResolution.Proofs.Reachability
import TypeResolution.Proofs.Chronicle
import TypeResolution.Proofs.Sharing
import TypeResolution.Proofs.Declarations
import TypeResolution.Proofs.Decoding
import TypeResolution.Proofs.ResolveCommand
import TypeResolution.Proofs.InstanceCommand
import TypeResolution.Proofs.Arguments
import TypeResolution.Proofs.ActionSpellings
import TypeResolution.Proofs.Protocol
import TypeResolution.Proofs.Json.Printed
import TypeResolution.Proofs.Json.ReadBack
import TypeResolution.Proofs.Json.Canonical
import TypeResolution.Proofs.DeclaredFields
import TypeResolution.Proofs.InstanceReadBack
import TypeResolution.Proofs.CanonicalForm
import TypeResolution.Proofs.ActionSubpath
import TypeResolution.Proofs.TwoPasses
import TypeResolution.Proofs.WordStarts
