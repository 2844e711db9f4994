import ClientForge.Code.Reading
import ClientForge.Main
import ClientForge.Proofs.Registries
import ClientForge.Proofs.ModuleNames
import ClientForge.Proofs.Assembly
import ClientForge.Proofs.ImportCycles
import ClientForge.Proofs.ImportTargets
import ClientForge.Proofs.ImportStyles
import ClientForge.Proofs.Endpoints
import ClientForge.Proofs.AliasTables
import ClientForge.Proofs.AliasTargets
import ClientForge.Proofs.AliasConflicts
import ClientForge.Proofs.ClassNames
import ClientForge.Proofs.ModelTest
import ClientForge.Proofs.BaseClasses
import ClientForge.Proofs.ClassLists
import ClientForge.Proofs.Inheritance
import ClientForge.Proofs.Linearisation
import ClientForge.Proofs.ResolutionOrder
import ClientForge.Proofs.Failures
import ClientForge.Proofs.ModulePaths
import ClientForge.Proofs.ModuleScopes
import ClientForge.Proofs.ModuleRuns
import ClientForge.Proofs.ExportSurvival
import ClientForge.Proofs.RoutePlaces
import ClientForge.Proofs.RouteConflicts
import ClientForge.Proofs.ReferenceChecks
import ClientForge.Proofs.ReferenceOrder
import ClientForge.Proofs.RootChains
import ClientForge.Proofs.BuiltinNames
import ClientForge.Proofs.Literals
import ClientForge.Proofs.Docstrings
import ClientForge.Proofs.BoundNames
import ClientForge.Proofs.LazyReading
import ClientForge.Proofs.ReferencesLeft
import ClientForge.Proofs.Descriptions
import ClientForge.Proofs.NamedClasses
import ClientForge.Proofs.CheckedImports
import ClientForge.Proofs.HiddenTypes
import ClientForge.Proofs.Signatures
import ClientForge.Proofs.CapturedNames
import ClientForge.Proofs.UrlValues
import ClientForge.Proofs.DocstringValues
import ClientForge.Proofs.SettledNames
import ClientForge.Proofs.JsonValues
import ClientForge.Proofs.PackageNames
import ClientForge.Proofs.Encodings
import ClientForge.Proofs.Loading
import ClientForge.Proofs.Settings
import ClientForge.Proofs.SettledOptions
import ClientForge.Proofs.PointerTargets
import ClientForge.Proofs.ModuleTexts
import ClientForge.Proofs.Nullability
import ClientForge.Proofs.ParameterOverrides
import ClientForge.Proofs.MediaTypes
import ClientForge.Proofs.FileTrees
import ClientForge.Proofs.Workers
import ClientForge.Proofs.Containment
