import ComponentDocs.Component.Basic
import ComponentDocs.Snapshot.Shape

/-! The shapes of a snapshot and of its parts. The order of the fields is the order of
the items when a record is given as a list. -/
namespace ComponentDocs

open Snapshot

namespace ServiceApi

def shape : Shape ServiceApi :=
  .convert (fun (className, groupId, artifactId, version, ()) =>
      { className, groupId, artifactId, version }) <|
    .record "ServiceApi" <|
      .need "className" .text <|
      .need "groupId" .text <|
      .need "artifactId" .text <|
      .need "version" .text .nil

end ServiceApi

namespace AllowableValue

def shape : Shape AllowableValue :=
  .convert (fun (displayName, value, description, ()) => { displayName, value, description }) <|
    .record "AllowableValue" <|
      .or "displayName" .text "" <|
      .or "value" .text "" <|
      .or "description" (.optional .text) none .nil

end AllowableValue

namespace ResourceDefinition

def shape : Shape ResourceDefinition :=
  .convert (fun (cardinality, resourceTypes, ()) => { cardinality, resourceTypes }) <|
    .record "ResourceDefinition" <|
      .or "cardinality" (.optional (.word ResourceCardinality)) none <|
      .or "resourceTypes" (.list (.word ResourceType)) [] .nil

end ResourceDefinition

namespace PropertyDependency

def shape : Shape PropertyDependency :=
  .convert (fun (propertyName, propertyDisplayName, dependentValues, ()) =>
      { propertyName, propertyDisplayName, dependentValues }) <|
    .record "PropertyDependency" <|
      .or "propertyName" .text "" <|
      .or "propertyDisplayName" .text "" <|
      .or "dependentValues" (.optional (.list .text)) none .nil

end PropertyDependency

namespace PropertyDescriptor

def shape : Shape PropertyDescriptor :=
  .convert (fun (name, displayName, description, defaultValue, allowableValues, required,
        sensitive, dynamic, expressionLanguageSupported, expressionLanguageScope,
        dynamicallyModifiesClasspath, controllerServiceDefinition, resourceDefinition,
        dependencies, ()) =>
      { name, displayName, description, defaultValue, allowableValues, required,
        sensitive, dynamic, expressionLanguageSupported, expressionLanguageScope,
        dynamicallyModifiesClasspath, controllerServiceDefinition, resourceDefinition,
        dependencies }) <|
    .record "PropertyDescriptor" <|
      .or "name" .text "" <|
      .or "displayName" (.optional .text) none <|
      .or "description" (.optional .text) none <|
      .or "defaultValue" (.optional .text) none <|
      .or "allowableValues" (.list AllowableValue.shape) [] <|
      .or "required" .flag false <|
      .or "sensitive" .flag false <|
      .or "dynamic" .flag false <|
      .or "expressionLanguageSupported" .flag false <|
      .or "expressionLanguageScope" (.optional (.word ExpressionLanguageScope)) none <|
      .or "dynamicallyModifiesClasspath" .flag false <|
      .or "controllerServiceDefinition" (.optional .text) none <|
      .or "resourceDefinition" (.optional ResourceDefinition.shape) none <|
      .or "dependencies" (.list PropertyDependency.shape) [] .nil

end PropertyDescriptor

namespace DynamicProperty

def shape : Shape DynamicProperty :=
  .convert (fun (name, value, description, expressionLanguageScope, ()) =>
      { name, value, description, expressionLanguageScope }) <|
    .record "DynamicProperty" <|
      .or "name" .text "" <|
      .or "value" .text "" <|
      .or "description" .text "" <|
      .or "expressionLanguageScope" (.word ExpressionLanguageScope) .none .nil

end DynamicProperty

namespace DeprecationNotice

def shape : Shape DeprecationNotice :=
  .convert (fun (reason, alternatives, classNames, ()) => { reason, alternatives, classNames }) <|
    .record "DeprecationNotice" <|
      .or "reason" .text "" <|
      .or "alternatives" (.list .text) [] <|
      .or "classNames" (.list .text) [] .nil

end DeprecationNotice

namespace SeeAlso

def shape : Shape SeeAlso :=
  .convert (fun (classes, classNames, ()) => { classes, classNames }) <|
    .record "SeeAlso" <|
      .or "classes" (.list .text) [] <|
      .or "classNames" (.list .text) [] .nil

end SeeAlso

namespace Stateful

def shape : Shape Stateful :=
  .convert (fun (description, scopes, ()) => { description, scopes }) <|
    .record "Stateful" <|
      .or "description" .text "" <|
      .or "scopes" (.list (.word Scope)) [] .nil

end Stateful

namespace Restriction

def shape : Shape Restriction :=
  .convert (fun (requiredPermission, explanation, ()) => { requiredPermission, explanation }) <|
    .record "Restriction" <|
      .or "requiredPermission" (.optional (.word RequiredPermission)) none <|
      .or "explanation" .text "" .nil

end Restriction

namespace Restricted

def shape : Shape Restricted :=
  .convert (fun (generalRestrictionExplanation, restrictions, ()) =>
      { generalRestrictionExplanation, restrictions }) <|
    .record "Restricted" <|
      .or "generalRestrictionExplanation" (.optional .text) none <|
      .or "restrictions" (.list Restriction.shape) [] .nil

end Restricted

namespace SystemResourceConsideration

def shape : Shape SystemResourceConsideration :=
  .convert (fun (resource, description, ()) => { resource, description }) <|
    .record "SystemResourceConsideration" <|
      .or "resource" (.optional (.word SystemResource)) none <|
      .or "description" .text "" .nil

end SystemResourceConsideration

namespace UseCase

def shape : Shape UseCase :=
  .convert (fun (description, notes, keywords, inputRequirement, configuration, ()) =>
      { description, notes, keywords, inputRequirement, configuration }) <|
    .record "UseCase" <|
      .or "description" .text "" <|
      .or "notes" .text "" <|
      .or "keywords" (.list .text) [] <|
      .or "inputRequirement" (.word InputRequirement) .allowed <|
      .or "configuration" .text "" .nil

end UseCase

namespace ProcessorConfiguration

def shape : Shape ProcessorConfiguration :=
  .convert (fun (processorClassName, processorClass, configuration, ()) =>
      { processorClassName, processorClass, configuration }) <|
    .record "ProcessorConfiguration" <|
      .or "processorClassName" .text "" <|
      .or "processorClass" (.optional .text) none <|
      .or "configuration" .text "" .nil

end ProcessorConfiguration

namespace MultiProcessorUseCase

def shape : Shape MultiProcessorUseCase :=
  .convert (fun (description, notes, keywords, configurations, ()) =>
      { description, notes, keywords, configurations }) <|
    .record "MultiProcessorUseCase" <|
      .or "description" .text "" <|
      .or "notes" .text "" <|
      .or "keywords" (.list .text) [] <|
      .or "configurations" (.list ProcessorConfiguration.shape) [] .nil

end MultiProcessorUseCase

namespace DefaultSchedule

def shape : Shape DefaultSchedule :=
  .convert (fun (strategy, period, concurrentTasks, ()) => { strategy, period, concurrentTasks }) <|
    .record "DefaultSchedule" <|
      .or "strategy" (.word SchedulingStrategy) .timerDriven <|
      .or "period" .text "0 sec" <|
      .or "concurrentTasks" .count 1 .nil

end DefaultSchedule

namespace DefaultSettings

def shape : Shape DefaultSettings :=
  .convert (fun (yieldDuration, penaltyDuration, bulletinLevel, ()) =>
      { yieldDuration, penaltyDuration, bulletinLevel }) <|
    .record "DefaultSettings" <|
      .or "yieldDuration" .text "1 sec" <|
      .or "penaltyDuration" .text "30 sec" <|
      .or "bulletinLevel" (.word BulletinLevel) .warn .nil

end DefaultSettings

namespace Relationship

def shape : Shape Relationship :=
  .convert (fun (name, description, autoTerminated, ()) => { name, description, autoTerminated }) <|
    .record "Relationship" <|
      .or "name" .text "" <|
      .or "description" .text "" <|
      .or "autoTerminated" .flag false .nil

end Relationship

/-- A set is given as a list; a name that comes again is dropped. -/
def RelationshipSet.shape : Shape RelationshipSet :=
  .convert RelationshipSet.ofList (.list Relationship.shape)

namespace DynamicRelationship

def shape : Shape DynamicRelationship :=
  .convert (fun (name, description, ()) => { name, description }) <|
    .record "DynamicRelationship" <|
      .or "name" .text "" <|
      .or "description" .text "" .nil

end DynamicRelationship

namespace AttributeDescriptor

def shape : Shape AttributeDescriptor :=
  .convert (fun (name, description, ()) => { name, description }) <|
    .record "AttributeDescriptor" <|
      .or "name" .text "" <|
      .or "description" .text "" .nil

end AttributeDescriptor

namespace ProcessorMetadata

def shape : Shape ProcessorMetadata :=
  .convert (fun (relationships, dynamicRelationship, readsAttributes, writesAttributes,
        triggerSerially, triggerWhenEmpty, triggerWhenAnyDestinationAvailable,
        supportsBatching, primaryNodeOnly, sideEffectFree, defaultSettings, ()) =>
      { relationships, dynamicRelationship, readsAttributes, writesAttributes,
        triggerSerially, triggerWhenEmpty, triggerWhenAnyDestinationAvailable,
        supportsBatching, primaryNodeOnly, sideEffectFree, defaultSettings }) <|
    .record "ProcessorMetadata" <|
      .or "relationships" RelationshipSet.shape .empty <|
      .or "dynamicRelationship" (.optional DynamicRelationship.shape) none <|
      .or "readsAttributes" (.list AttributeDescriptor.shape) [] <|
      .or "writesAttributes" (.list AttributeDescriptor.shape) [] <|
      .or "triggerSerially" .flag false <|
      .or "triggerWhenEmpty" .flag false <|
      .or "triggerWhenAnyDestinationAvailable" .flag false <|
      .or "supportsBatching" .flag false <|
      .or "primaryNodeOnly" .flag false <|
      .or "sideEffectFree" .flag false <|
      .or "defaultSettings" (.optional DefaultSettings.shape) none .nil

end ProcessorMetadata

namespace ControllerServiceMetadata

def shape : Shape ControllerServiceMetadata :=
  .convert (fun (providedServiceApis, ()) => { providedServiceApis }) <|
    .record "ControllerServiceMetadata" <|
      .or "providedServiceApis" (.list ServiceApi.shape) [] .nil

end ControllerServiceMetadata

namespace Kind

/-- The cases of a component, named by category. -/
def cases : Cases Kind :=
  .shaped "PROCESSOR" ProcessorMetadata.shape .processor <|
  .shaped "CONTROLLER_SERVICE" ControllerServiceMetadata.shape .controllerService <|
  .plain "REPORTING_TASK" .reportingTask <|
  .plain "FLOW_ANALYSIS_RULE" .flowAnalysisRule <|
  .plain "PARAMETER_PROVIDER" .parameterProvider .nil

def shape : Shape Kind := .kinds "ComponentKind" "type" cases

end Kind

namespace Component

/-- A component is one object: its own fields, `type`, and the fields of its kind. -/
def shape : Shape Component :=
  .convert (fun ((className, description, tags, properties, dynamicProperties,
        supportsSensitiveDynamicProperties, deprecationNotice, stateful, restricted,
        inputRequirement, systemResourceConsiderations, useCases, multiProcessorUseCases,
        seeAlso, defaultSchedule, ()), kind) =>
      { className, kind, description, tags, properties, dynamicProperties,
        supportsSensitiveDynamicProperties, deprecationNotice, stateful, restricted,
        inputRequirement, systemResourceConsiderations, useCases, multiProcessorUseCases,
        seeAlso, defaultSchedule }) <|
    .extended "ExtensionComponent"
      (.need "className" .text <|
        .or "description" (.optional .text) none <|
        .or "tags" (.list .text) [] <|
        .or "properties" (.list PropertyDescriptor.shape) [] <|
        .or "dynamicProperties" (.list DynamicProperty.shape) [] <|
        .or "supportsSensitiveDynamicProperties" .flag false <|
        .or "deprecationNotice" (.optional DeprecationNotice.shape) none <|
        .or "stateful" (.optional Stateful.shape) none <|
        .or "restricted" (.optional Restricted.shape) none <|
        .or "inputRequirement" (.optional (.word InputRequirement)) none <|
        .or "systemResourceConsiderations" (.list SystemResourceConsideration.shape) [] <|
        .or "useCases" (.list UseCase.shape) [] <|
        .or "multiProcessorUseCases" (.list MultiProcessorUseCase.shape) [] <|
        .or "seeAlso" (.optional SeeAlso.shape) none <|
        .or "defaultSchedule" (.optional DefaultSchedule.shape) none .nil)
      "type" Kind.cases

end Component

namespace Request

def shape : Shape Request :=
  .convert (fun (component, providedServiceApis, propertyServices, ()) =>
      { component, providedServiceApis, propertyServices }) <|
    .record "DocumentRequest" <|
      .need "component" Component.shape <|
      .or "providedServiceApis" (.list ServiceApi.shape) [] <|
      .or "propertyServices" (.convert PropertyServices.ofList (.table ServiceApi.shape)) .empty
        .nil

end Request

end ComponentDocs
