import Leuit.Console.Completion
import Leuit.Main
import Leuit.Store.Memory
import Leuit.Proofs.Commands
import Leuit.Proofs.Constraints
import Leuit.Proofs.Runs
import Leuit.Proofs.StoredRecords
import Leuit.Proofs.SameRows
import Leuit.Proofs.Atomicity
import Leuit.Proofs.Brackets
import Leuit.Proofs.Descriptors
import Leuit.Proofs.BareDescriptors
import Leuit.Proofs.Definitions
import Leuit.Proofs.CreatedTables
import Leuit.Proofs.CreatedGrants
import Leuit.Proofs.RoundTrip
import Leuit.Proofs.AccessControl
import Leuit.Proofs.LockSets
import Leuit.Proofs.Updates
import Leuit.Proofs.BlankRecords
import Leuit.Proofs.ForeignKeys
import Leuit.Proofs.Dates
import Leuit.Proofs.KeyLookups
import Leuit.Proofs.RecordFiles
import Leuit.Proofs.TableFiles
import Leuit.Proofs.DataFolders
import Leuit.Proofs.WrittenRecords
import Leuit.Proofs.FileRefinement
import Leuit.Proofs.Spellings
import Leuit.Proofs.Printing
import Leuit.Proofs.PrintedClauses
import Leuit.Proofs.PrintedQueries
import Leuit.Proofs.FileMaps
import Leuit.Proofs.CreatedFiles
import Leuit.Proofs.JoinedParents
import Leuit.Proofs.RelationShapes
import Leuit.Proofs.Slices
import Leuit.Proofs.StrictDescriptors
import Leuit.Proofs.StrictQueries
import Leuit.Proofs.StrictRuns
import Leuit.Proofs.JoinOrigins
import Leuit.Proofs.Comparisons
import Leuit.Proofs.JoinSides
import Leuit.Proofs.MirroredJoins
import Leuit.Proofs.SoundTrees
import Leuit.Proofs.OpenFolders
import Leuit.Proofs.Sessions
import Leuit.Proofs.UpdatedRows
import Leuit.Proofs.WhereClauses
import Leuit.Proofs.SortedPages
import Leuit.Proofs.Insertions
import Leuit.Proofs.CalendarTexts
import Leuit.Proofs.ShownValues
import Leuit.Proofs.LiteralOrders
import Leuit.Proofs.DescriptorParts
import Leuit.Proofs.NearestFloats
import Leuit.Proofs.IntegerSorting
import Leuit.Proofs.Extremes
import Leuit.Proofs.Completions
import Leuit.Proofs.CurrentDatabases
import Leuit.Proofs.AlignedTables
import Leuit.Proofs.AcceptedSchemas
import Leuit.Proofs.ConditionChains
import Leuit.Proofs.LockOrder
