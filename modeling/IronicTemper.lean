import IronicTemper.Basic
import IronicTemper.GoLibrary
import IronicTemper.Clients.Poll
import IronicTemper.Clients.Lookup
import IronicTemper.Clients.Flavor
import IronicTemper.Clients.Dns
import IronicTemper.Clients.Baremetal
import IronicTemper.Clients.Rules
import IronicTemper.Clients.TestInstance
import IronicTemper.Clients.Redfish
import IronicTemper.Clients.Inventory
import IronicTemper.Redfish.Start
import IronicTemper.Provision.ErrorHandler
import IronicTemper.Temper.Worker
